import FlightUnits.CommandLine.Invocation
import FlightUnits.Proofs.FallibleSteps

/-!
# Texts that a command line can show

Reading a command line halts with a text to show or with a complaint. The only texts are those that
the flags and slots of a grammar show: what is carried through the reading is that every flag that
has been recognized, and every slot that is still empty, is one of the grammar. The grammars of the
program show the help and the version of the program and the help of each command.
-/

namespace FlightUnits.CommandLine

/-! ### Readings -/

section Readings

variable {σ β γ : Type} {texts : List String}

/-- If a text is shown it is one of the texts. -/
def Halt.ShowsOnly (texts : List String) : Halt → Prop
  | .shown text => text ∈ texts
  | .refused .. => True

def Complaint.ShowsOnly (texts : List String) : Complaint → Prop
  | .misused _ => True
  | .ended halt => halt.ShowsOnly texts

/-- A step of reading that comes to something with the property `Q`, or shows one of the texts. -/
abbrev Reads (texts : List String) (Q : β → Prop) (s : Except Halt β) : Prop :=
  Ends Q (Halt.ShowsOnly texts) s

/-- An argument that accepts its words, or shows one of the texts. -/
abbrev Acts (texts : List String) (act : List String → σ → Except Complaint σ) : Prop :=
  ∀ words s, Ends (fun _ => True) (Complaint.ShowsOnly texts) (act words s)

namespace Grammar

/-- All that a grammar shows are some texts. -/
structure ShowsOnly (g : Grammar σ) (texts : List String) : Prop where
  flags : ∀ f ∈ g.flags, Acts texts f.act
  slots : ∀ slot ∈ g.slots, Acts texts slot.act

variable {g : Grammar σ} {f : Flag σ}

lemma mem_flags_of_mem_names {entry : String × Flag σ} (h : entry ∈ g.names) :
    entry.2 ∈ g.flags := by
  obtain ⟨f, hf, hentry⟩ := List.mem_flatMap.mp h
  obtain ⟨name, -, rfl⟩ := List.mem_map.mp hentry
  exact hf

lemma mem_flags_of_flag? {name : String} (h : g.flag? name = some f) : f ∈ g.flags := by
  obtain ⟨before, after, hnames, -⟩ := List.lookup_eq_some_iff.mp h
  have hmem : (name, f) ∈ g.names := hnames ▸ List.mem_append_right _ List.mem_cons_self
  exact mem_flags_of_mem_names hmem

lemma flag_mem_of_mem_candidates {word : List Char} {given : GivenFlag σ}
    (h : given ∈ g.candidates word) : given.flag ∈ g.flags := by
  rw [candidates.eq_def] at h
  split at h
  all_goals
    obtain ⟨entry, hentry, rfl⟩ := List.mem_map.mp h
    exact mem_flags_of_mem_names (List.mem_filter.mp hentry).1

/-- If the word of a role is a flag, it is one of the grammar. -/
def Knows (g : Grammar σ) : Role σ → Prop
  | .flag given => given.flag ∈ g.flags
  | _ => True

lemma reads_guessedRole (word : String) : Reads texts g.Knows (g.guessedRole word) := by
  rw [guessedRole]
  split
  · next given h =>
    exact .ok (flag_mem_of_mem_candidates (h ▸ List.mem_cons_self : given ∈ g.candidates _))
  · split
    · exact .ok trivial
    · exact .ok trivial
  · exact .error trivial

lemma reads_role (word : String) : Reads texts g.Knows (g.role word) := by
  rw [role]
  split
  · exact .ok trivial
  · split
    · next f h => exact .ok (mem_flags_of_flag? h : f ∈ g.flags)
    · split
      · exact .ok trivial
      · split
        · next given h =>
          rw [assignedFlag?] at h
          split at h
          · obtain ⟨f, hf, rfl⟩ := Option.map_eq_some_iff.mp h
            exact .ok (mem_flags_of_flag? hf : f ∈ g.flags)
          · exact nomatch h
        · exact reads_guessedRole word

lemma reads_roles (words : List String) :
    Reads texts (fun roles => ∀ word ∈ roles, g.Knows word.2) (g.roles words) := by
  induction words with
  | nil => exact .ok (fun _ h => absurd h List.not_mem_nil)
  | cons word words ih =>
    rw [roles]
    split
    · refine .ok (List.forall_mem_cons.mpr ⟨trivial, List.forall_mem_map.mpr fun _ _ => ?_⟩)
      exact trivial
    · refine (reads_role word).bind fun role hrole => ih.bind fun rest hrest => ?_
      exact .ok (List.forall_mem_cons.mpr ⟨hrole, hrest⟩)

lemma reads_naming {s : Except Complaint β} {Q : β → Prop}
    (h : Ends Q (Complaint.ShowsOnly texts) s) (name : String) :
    Reads texts Q (s.mapError (g.naming name)) :=
  h.mapError fun complaint hcomplaint => by
    cases complaint with
    | misused message => trivial
    | ended halt => exact hcomplaint

lemma reads_misuse {Q : β → Prop} (f : Flag σ) (message : String) :
    Reads texts Q (g.misuse f message : Except Halt β) := .error trivial

/-- All flags that a word gives are flags of the grammar. -/
def KnowsAll (g : Grammar σ) (spread : Spread σ) : Prop :=
  ∀ f ∈ spread.last :: spread.before, f ∈ g.flags

lemma reads_spread (hf : f ∈ g.flags) (letter : Bool) (attached : List Char) :
    Reads texts g.KnowsAll (g.spread f letter attached) := by
  fun_induction g.spread f letter attached with
  | case1 => exact .ok (List.forall_mem_singleton.mpr hf)
  | case2 | case3 | case5 | case8 => exact reads_misuse _ _
  | case4 => exact .ok (List.forall_mem_singleton.mpr hf)
  | case6 f c _ _ next hnext =>
    have hnext : next ∈ g.flags := mem_flags_of_flag? hnext
    exact .ok (List.forall_mem_cons.mpr ⟨hnext, List.forall_mem_singleton.mpr hf⟩)
  | case7 f c _ _ next cs _ hnext ih =>
    refine (ih (mem_flags_of_flag? hnext)).bind fun more hmore => ?_
    obtain ⟨hlast, hbefore⟩ := List.forall_mem_cons.mp hmore
    exact .ok (List.forall_mem_cons.mpr ⟨hlast, List.forall_mem_cons.mpr ⟨hf, hbefore⟩⟩)

lemma reads_givenSpread {given : GivenFlag σ} (h : given.flag ∈ g.flags) :
    Reads texts g.KnowsAll (GivenFlag.spread g given) := by
  rw [GivenFlag.spread]
  split
  · exact reads_spread h _ _
  · exact .ok (List.forall_mem_singleton.mpr h)

lemma reads_followers (f : Flag σ) (words : List (String × Role σ)) :
    Reads texts (fun _ => True) (g.followers f words) := by
  rw [followers]
  split
  · exact .ok trivial
  · split
    · exact reads_misuse _ _
    · exact reads_misuse _ _

variable (hg : g.ShowsOnly texts)

include hg

lemma reads_act (hf : f ∈ g.flags) (words : List String) (s : σ) :
    Reads texts (fun _ => True) (g.act f words s) :=
  reads_naming (hg.flags f hf _ s) _

lemma reads_useFlag {given : GivenFlag σ} (h : given.flag ∈ g.flags)
    (words : List (String × Role σ)) (s : σ) :
    Reads texts (fun _ => True) (g.useFlag given words s) := by
  refine (reads_givenSpread h).bind fun spread hspread => ?_
  obtain ⟨hlast, hbefore⟩ := List.forall_mem_cons.mp hspread
  have hfold : ∀ (flags : List (Flag σ)) (s : σ), (∀ f ∈ flags, f ∈ g.flags) →
      Reads texts (fun _ => True) (flags.foldlM (fun s f => g.act f [] s) s) := by
    intro flags
    induction flags with
    | nil => exact fun s _ => .ok trivial
    | cons f flags ih =>
      intro s h
      obtain ⟨hf, hflags⟩ := List.forall_mem_cons.mp h
      rw [List.foldlM_cons]
      exact (reads_act hg hf [] s).bind fun s _ => ih s hflags
  have hact (own : List String) (taken : Nat) : Reads texts (fun _ => True) (do
      let s ← spread.before.foldlM (fun s f => g.act f [] s) s
      let s ← g.act spread.last own s
      return (s, taken)) := by
    refine (hfold _ s hbefore).bind fun s _ => (reads_act hg hlast own s).bind fun s _ => ?_
    exact .ok trivial
  dsimp only
  split
  · exact hact _ _
  · have hown : Reads texts (fun _ => True)
        ((g.followers spread.last words).map fun own => (own, own.length)) :=
      (reads_followers spread.last words).map fun _ _ => trivial
    exact hown.bind fun own _ => hact _ _

lemma reads_fill {slots : List (Slot σ)} (hslots : ∀ slot ∈ slots, slot ∈ g.slots)
    (words : List (String × Role σ)) (s : σ) :
    Reads texts (fun r => ∀ slot ∈ r.1, slot ∈ g.slots) (g.fill slots words s) := by
  fun_induction g.fill slots words s with
  | case1 => exact .ok hslots
  | case2 => exact .ok hslots
  | case3 slot slots words s taken _ own ih =>
    obtain ⟨hslot, hrest⟩ := List.forall_mem_cons.mp hslots
    refine (reads_naming (hg.slots slot hslot own s) _).bind fun s _ => ?_
    exact (ih s hrest).bind fun r hr => .ok hr

/-- The slots that are still empty are slots of the grammar. -/
lemma reads_readFrom (p : Progress σ) (hp : ∀ slot ∈ p.slots, slot ∈ g.slots)
    (words : List (String × Role σ)) (hwords : ∀ word ∈ words, g.Knows word.2) :
    Reads texts (fun _ => True) (g.readFrom p words) := by
  fun_induction g.readFrom p words with
  | case1 p => exact (reads_fill hg hp [] p.settings).bind fun r _ => .ok trivial
  | case2 p word rest given ih =>
    obtain ⟨hgiven, hrest⟩ := List.forall_mem_cons.mp hwords
    refine (reads_useFlag hg hgiven rest p.settings).bind fun r _ => ?_
    exact ih r.1 r.2 hp fun w hw => hrest w (List.mem_of_mem_drop hw)
  | case3 p word rest ih => exact ih hp (List.forall_mem_cons.mp hwords).2
  | case4 p word rest role _ _ words ihTaken ihSkipped =>
    obtain ⟨-, hrest⟩ := List.forall_mem_cons.mp hwords
    refine (reads_fill hg hp words p.settings).bind fun r hslots => ?_
    obtain ⟨slots, s, taken⟩ := r
    dsimp only
    split
    · split
      · exact ihTaken slots s _ hslots fun w hw => hrest w (List.mem_of_mem_drop hw)
      · exact ihSkipped slots s hslots fun w hw => hrest w ((List.dropWhile_sublist _).subset hw)
    · exact .ok trivial

lemma reads_read (words : List String) (s : σ) :
    Reads texts (fun _ => True) (g.read words s) := by
  refine (reads_roles words).bind fun roles hroles => ?_
  refine (reads_readFrom hg ⟨g.slots, s, []⟩ (fun _ h => h) roles hroles).bind fun p _ => ?_
  split
  · exact .ok trivial
  · exact .error trivial

lemma reads_readAll (words : List String) (s : σ) (leftOver : σ → List String) :
    Reads texts (fun _ => True) (g.readAll words s leftOver) := by
  refine (reads_read hg words s).bind fun r _ => ?_
  obtain ⟨s, extras⟩ := r
  dsimp only
  split
  · exact .ok trivial
  · exact .error trivial

end Grammar

end Readings

/-! ### The grammars of the program -/

section Grammars

variable {σ β : Type} {texts : List String}

lemma acts_helpFlag {text : String} (h : text ∈ texts) :
    Acts texts (helpFlag text : Flag σ).act := fun _ _ => .error h

lemma acts_switch (names : List String) (set : σ → σ) : Acts texts (switch names set).act :=
  fun _ _ => .ok trivial

/-- The meaning of a word, or a complaint about the word. -/
abbrev Means (read : String → Except Complaint β) : Prop :=
  ∀ word, Ends (fun _ => True) (Complaint.ShowsOnly []) (read word)

lemma means_wordOfKind (kind : String) (read : String → Option β) :
    Means (wordOfKind kind read) := by
  intro word
  rw [wordOfKind]
  split
  · exact .ok trivial
  · exact .error trivial

lemma means_wordAmong (choices : List String) (read : String → Option β) :
    Means (wordAmong choices read) := by
  intro word
  rw [wordAmong]
  split
  · exact .ok trivial
  · exact .error trivial

lemma means_wordAsOperand : Means wordAsOperand := by
  intro word
  rw [wordAsOperand]
  split
  · exact .ok trivial
  · exact .error trivial

lemma Complaint.ShowsOnly.of_nil {c : Complaint} (h : c.ShowsOnly []) : c.ShowsOnly texts := by
  cases c with
  | misused => trivial
  | ended halt =>
    cases halt with
    | shown text => exact absurd h List.not_mem_nil
    | refused => trivial

lemma Means.map {read : String → Except Complaint β} (hread : Means read) (set : β → σ)
    (word : String) : Ends (fun _ => True) (Complaint.ShowsOnly texts) ((read word).map set) :=
  ((hread word).map fun _ _ => trivial).mono (fun _ h => h) fun _ => Complaint.ShowsOnly.of_nil

lemma acts_withWord {read : String → Except Complaint β} (hread : Means read)
    (set : β → σ → σ) : Acts texts (withWord read set) := by
  intro words s
  rw [withWord.eq_def]
  split
  · exact hread.map _ _
  · exact .ok trivial

end Grammars

/-- The texts that the program can show: its help and version, and the help of each command. -/
def Help.texts : List String :=
  [Help.program, Program.name ++ " " ++ Program.version ++ "\n"] ++ Command.all.map Help.ofCommand

lemma Help.ofCommand_mem_texts (c : Command) : Help.ofCommand c ∈ Help.texts := by
  have hall : c ∈ Command.all := by cases c <;> decide
  exact List.mem_append_right _ (List.mem_map_of_mem hall)

lemma unitsGrammar_showsOnly : unitsGrammar.ShowsOnly Help.texts where
  flags := by
    refine List.forall_mem_cons.mpr ⟨acts_helpFlag (Help.ofCommand_mem_texts .units), ?_⟩
    refine List.forall_mem_singleton.mpr fun words s => ?_
    dsimp only
    split
    · exact (means_wordAmong _ _).map _ _
    · exact .ok trivial
  slots := nofun

lemma convertGrammar_showsOnly : convertGrammar.ShowsOnly Help.texts where
  flags := by
    refine List.forall_mem_cons.mpr ⟨acts_helpFlag (Help.ofCommand_mem_texts .convert), ?_⟩
    exact List.forall_mem_singleton.mpr (acts_switch _ _)
  slots := by
    refine List.forall_mem_cons.mpr ⟨acts_withWord (means_wordOfKind _ _) _, ?_⟩
    refine List.forall_mem_cons.mpr ⟨acts_withWord (fun _ => .ok trivial) _, ?_⟩
    exact List.forall_mem_singleton.mpr (acts_withWord (fun _ => .ok trivial) _)

lemma calculateGrammar_showsOnly : calculateGrammar.ShowsOnly Help.texts where
  flags := by
    refine List.forall_mem_cons.mpr ⟨acts_helpFlag (Help.ofCommand_mem_texts .calculate), ?_⟩
    exact List.forall_mem_singleton.mpr (acts_switch _ _)
  slots := by
    refine List.forall_mem_cons.mpr ⟨acts_withWord (means_wordAmong _ _) _, ?_⟩
    refine List.forall_mem_cons.mpr ⟨acts_withWord means_wordAsOperand _, ?_⟩
    exact List.forall_mem_singleton.mpr (acts_withWord means_wordAsOperand _)

lemma pressureGrammar_showsOnly : pressureGrammar.ShowsOnly Help.texts where
  flags := by
    refine List.forall_mem_cons.mpr ⟨acts_helpFlag (Help.ofCommand_mem_texts .dynamicPressure), ?_⟩
    refine List.forall_mem_cons.mpr ⟨fun words s => ?_, ?_⟩
    · dsimp only
      split
      · exact .ok trivial
      · exact .ok trivial
    · exact List.forall_mem_singleton.mpr (acts_switch _ _)
  slots := by
    refine List.forall_mem_cons.mpr ⟨acts_withWord (means_wordOfKind _ _) _, ?_⟩
    exact List.forall_mem_singleton.mpr (acts_withWord (fun _ => .ok trivial) _)

lemma serveGrammar_showsOnly : serveGrammar.ShowsOnly Help.texts where
  flags := by
    refine List.forall_mem_cons.mpr ⟨acts_helpFlag (Help.ofCommand_mem_texts .serve), ?_⟩
    refine List.forall_mem_cons.mpr ⟨fun _ _ => .ok trivial, ?_⟩
    refine List.forall_mem_cons.mpr ⟨fun words s => ?_, ?_⟩
    · dsimp only
      split
      · exact (means_wordOfKind _ _).map _ _
      · exact .ok trivial
    · exact List.forall_mem_singleton.mpr (acts_switch _ _)
  slots := nofun

lemma reads_readTask (words : List String) (command : Command) :
    Reads Help.texts (fun _ => True) (readTask words command) := by
  have htask {σ : Type} {g : Grammar σ} (hg : g.ShowsOnly Help.texts) (s : σ) (make : σ → Task) :
      Reads Help.texts (fun _ => True) (do
        let r ← g.read words s
        return (make r.1, r.2)) :=
    (Grammar.reads_read hg words s).bind fun _ _ => .ok trivial
  cases command with
  | units => exact htask unitsGrammar_showsOnly _ _
  | convert => exact htask convertGrammar_showsOnly _ _
  | calculate => exact htask calculateGrammar_showsOnly _ _
  | dynamicPressure => exact htask pressureGrammar_showsOnly _ _
  | serve => exact htask serveGrammar_showsOnly _ _

lemma acts_actOnCommand : Acts Help.texts actOnCommand := by
  intro words s
  cases words with
  | nil => exact .ok trivial
  | cons word words =>
    have hcommand : Ends (fun _ => True) (Complaint.ShowsOnly Help.texts)
        (wordAmong (Command.all.map Command.word) Command.ofWord? word) :=
      (means_wordAmong _ _ word).mono (fun _ h => h) fun _ => Complaint.ShowsOnly.of_nil
    refine hcommand.bind fun command _ => ?_
    have htask : Ends (fun _ => True) (Complaint.ShowsOnly Help.texts)
        ((readTask words command).mapError Complaint.ended) :=
      (reads_readTask words command).mapError fun _ h => h
    exact htask.bind fun _ _ => .ok trivial

lemma programGrammar_showsOnly : programGrammar.ShowsOnly Help.texts where
  flags := by
    refine List.forall_mem_cons.mpr ⟨acts_helpFlag List.mem_cons_self, ?_⟩
    refine List.forall_mem_cons.mpr ⟨fun _ _ => ?_, ?_⟩
    · exact .error (List.mem_cons_of_mem _ List.mem_cons_self : _ ∈ Help.texts)
    · exact List.forall_mem_singleton.mpr (acts_switch _ _)
  slots := List.forall_mem_singleton.mpr acts_actOnCommand

lemma reads_invocation (words : List String) :
    Reads Help.texts (fun _ => True) (Invocation.read words) :=
  Grammar.reads_readAll programGrammar_showsOnly words _ _

end FlightUnits.CommandLine
