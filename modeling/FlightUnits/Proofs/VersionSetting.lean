import FlightUnits.Proofs.FallibleSteps
import FlightUnits.Proofs.VersionForm
import FlightUnits.Proofs.VersionLines
import FlightUnits.Release.Bump

/-!
# Setting the version in the sources

Setting the version in a file replaces its first version line by the plain one of the version. A
run over the files that comes to its end has done this in every file, has written those files only
whose text changes, and has nothing to do when it is repeated. A run that stops at a file leaves
what a run over the files before it leaves, and a dry run leaves everything.
-/

namespace FlightUnits.Release

/-! ### The characters of a version -/

/-- A character that may stand in what is taken for a version. -/
def isVersionChar (c : Char) : Bool :=
  Text.isDecimalDigit c || isSuffixChar c || c == '-' || c == '+' || c == '\n'

section Characters

variable {s : List Char} {version : String}

lemma IsWellFormed.isVersionChar (h : IsWellFormed s) : ∀ c ∈ s, isVersionChar c := by
  intro c hc
  rcases h.forall_mem c hc with hdigit | hword | hmark
  · simp [Release.isVersionChar, hdigit]
  · simp [Release.isVersionChar, hword]
  · simp only [List.mem_cons, List.not_mem_nil, or_false] at hmark
    rcases hmark with rfl | rfl | rfl <;> decide

/-- What is taken for a version is not empty and holds the characters of versions only. -/
theorem forall_of_isVersion (h : isVersion version) :
    version.toList ≠ [] ∧ ∀ c ∈ version.toList, isVersionChar c := by
  rcases isVersion_iff.mp h with hform | ⟨plain, hform, hbreak⟩
  · exact ⟨hform.ne_nil, hform.isVersionChar⟩
  · rw [hbreak]
    refine ⟨by simp, fun c hc => ?_⟩
    rcases List.mem_append.mp hc with hc | hc
    · exact hform.isVersionChar c hc
    · obtain rfl := List.mem_singleton.mp hc
      decide

lemma not_mem_of_isVersion {c : Char} (h : isVersion version) (hc : isVersionChar c = false) :
    c ∉ version.toList := by
  intro hmem
  rw [(forall_of_isVersion h).2 c hmem] at hc
  cases hc

end Characters

/-! ### One file -/

/-- The text of a file as it is read. -/
def Sources.read? (s : Sources) (file : SourceFile) : Option (List Char) :=
  (s.get? file).map fun content => Text.normalized content.toList

/-- A new text of a file: the old one with the plain line of the version as its first version line. -/
def Replaces (file : SourceFile) (version : String) (old new : List Char) : Prop :=
  ∃ before line after, FirstVersionLine file.key.toList true old before line after ∧
    new = before ++ versionLine file.key.toList version.toList ++ after

section File

variable {file : SourceFile} {version content : String} {old new new' text newText : List Char}
  {s : Sources}

lemma isKey_key (file : SourceFile) : IsKey file.key.toList := by
  have hspace : file.key.toList.all fun c => !Text.isSpace c := by cases file <;> decide
  refine ⟨?_, ?_, ?_, fun c hc => by simpa using List.all_eq_true.mp hspace c hc⟩ <;>
  · cases file <;> decide

lemma isVersionLine_versionLine (hversion : isVersion version) (key : List Char) :
    IsVersionLine key (versionLine key version.toList) := by
  refine ⟨" = ".toList, '"' :: version.toList ++ ['"'], ?_, ?_, by simp [versionLine]⟩
  · have hblank : ∀ c ∈ [' '], Text.isSpace c := List.forall_mem_singleton.mpr (by decide)
    exact ⟨[' '], [' '], hblank, hblank, rfl⟩
  · exact ⟨version.toList, (forall_of_isVersion hversion).1,
      not_mem_of_isVersion hversion (by decide), rfl⟩

lemma setVersion_eq_ok_iff :
    setVersion file version content = .ok (text, newText) ↔
      text = Text.normalized content.toList ∧ Replaces file version text newText := by
  unfold setVersion Replaces
  rw [← replaceVersionLine?_eq_some_iff]
  dsimp only
  split
  next new hnew =>
    simp only [Except.ok.injEq, Prod.mk.injEq]
    constructor
    · rintro ⟨rfl, rfl⟩
      exact ⟨rfl, hnew⟩
    · rintro ⟨rfl, hnew'⟩
      exact ⟨rfl, Option.some.inj (hnew.symm.trans hnew')⟩
  next hnone =>
    refine iff_of_false (by simp) ?_
    rintro ⟨rfl, hnew⟩
    rw [hnew] at hnone
    cases hnone

lemma setVersion_eq_error {fault : BumpFault} (h : setVersion file version content = .error fault) :
    fault = .noVersionLine file := by
  unfold setVersion at h
  dsimp only at h
  split at h
  next => cases h
  next => exact (Except.error.inj h).symm

lemma Replaces.unique (h : Replaces file version old new) (h' : Replaces file version old new') :
    new = new' := by
  obtain ⟨before, line, after, hfirst, rfl⟩ := h
  obtain ⟨before', line', after', hfirst', rfl⟩ := h'
  have hcut := cutVersionLine?_eq_some_iff.mpr ⟨line, hfirst⟩
  have hcut' := cutVersionLine?_eq_some_iff.mpr ⟨line', hfirst'⟩
  obtain ⟨rfl, rfl⟩ := Prod.mk.inj (Option.some.inj (hcut.symm.trans hcut'))
  rfl

/-- The new text has the plain line of the version as its first version line already. -/
lemma Replaces.settled (hversion : isVersion version) (h : Replaces file version old new) :
    Replaces file version new new := by
  obtain ⟨before, line, after, hfirst, rfl⟩ := h
  exact ⟨before, _, after, hfirst.replace (isKey_key file) (isVersionLine_versionLine hversion _),
    rfl⟩

lemma normalized_of_not_mem (h : '\r' ∉ text) : Text.normalized text = text := by
  fun_induction Text.normalized text with
  | case1 => rfl
  | case2 rest _ => simp at h
  | case3 c rest _ ih =>
    rw [List.mem_cons, not_or] at h
    rw [ih h.2, if_neg (Ne.symm h.1)]

/-- A file that was set reads as it was written. -/
lemma Replaces.normalized_new (hversion : isVersion version) (h : Replaces file version old new)
    (hold : '\r' ∉ old) : Text.normalized new = new := by
  apply normalized_of_not_mem
  obtain ⟨before, line, after, hfirst, rfl⟩ := h
  have hkey : '\r' ∉ file.key.toList := by cases file <;> decide
  have hversion' := not_mem_of_isVersion hversion (c := '\r') (by decide)
  rw [hfirst.text_eq] at hold
  simp only [List.mem_append, not_or] at hold ⊢
  refine ⟨⟨hold.1.1, ?_⟩, hold.2⟩
  simp [versionLine, hkey, hversion']

end File

/-! ### A run over files -/

namespace Sources

variable {s t : Sources} {file other : SourceFile} {dryRun : Bool} {text newText : List Char}

/-- The sources after a file with the given text has been given the new one. -/
def write (s : Sources) (dryRun : Bool) (file : SourceFile) (text newText : List Char) : Sources :=
  if text = newText ∨ dryRun = true then s else s.set file (String.ofList newText)

lemma ext_get? (h : ∀ file, s.get? file = t.get? file) : s = t := by
  have hpackage : s.package = t.package := h .package
  have hproject : s.project = t.project := h .project
  cases s
  cases t
  cases hpackage
  cases hproject
  rfl

lemma get?_set_self (s : Sources) (file : SourceFile) (content : String) :
    (s.set file content).get? file = some content := by
  cases file <;> rfl

lemma get?_set_of_ne (s : Sources) (content : String) (h : other ≠ file) :
    (s.set file content).get? other = s.get? other := by
  cases file <;> cases other <;> first | rfl | exact absurd rfl h

lemma read?_eq_of_get? (h : s.get? file = t.get? file) : s.read? file = t.read? file := by
  rw [read?, h, read?]

@[simp] lemma write_dry (s : Sources) (file : SourceFile) (text newText : List Char) :
    s.write true file text newText = s := if_pos (Or.inr rfl)

lemma write_self (s : Sources) (file : SourceFile) (text : List Char) :
    s.write dryRun file text text = s := if_pos (Or.inl rfl)

lemma get?_write_of_ne (h : other ≠ file) :
    (s.write dryRun file text newText).get? other = s.get? other := by
  unfold write
  split
  next => rfl
  next => exact get?_set_of_ne s _ h

/-- A file that is no line break but line feeds reads as it was written. -/
lemma read?_write (hread : s.read? file = some text) (hnew : Text.normalized newText = newText) :
    (s.write false file text newText).read? file = some newText := by
  unfold write
  split
  next h =>
    obtain rfl : text = newText := by simpa using h
    exact hread
  next => rw [read?, get?_set_self, Option.map_some, String.toList_ofList, hnew]

lemma not_mem_of_read? (h : s.read? file = some text) : '\r' ∉ text := by
  obtain ⟨content, -, rfl⟩ := Option.map_eq_some_iff.mp h
  exact Text.not_mem_normalized _

end Sources

/-- The file that a fault is about. -/
def BumpFault.file? : BumpFault → Option SourceFile
  | invalidVersion _ => none
  | noVersionLine file | missingFile file => some file

section Runs

variable {version : String} {file : SourceFile} {files : List SourceFile} {s s' t : Sources}
  {dryRun dryRun' : Bool} {text newText : List Char} {changed : List SourceFile} {fault : BumpFault}

/-- A file whose version line can be replaced is written, if it changes, before the others. -/
lemma bumpFiles_cons_of_replaces (hread : s.read? file = some text)
    (hset : Replaces file version text newText) :
    bumpFiles version dryRun (file :: files) s =
      let (after, changed) := bumpFiles version dryRun files (s.write dryRun file text newText)
      (after, changed.map fun changed => if text = newText then changed else file :: changed) := by
  obtain ⟨content, hcontent, htext⟩ := Option.map_eq_some_iff.mp hread
  have hok := setVersion_eq_ok_iff.mpr ⟨htext.symm, hset⟩
  rw [bumpFiles]
  simp only [hcontent, hok]
  by_cases h : text = newText
  · subst h
    simp only [if_true, Sources.write_self]
    generalize bumpFiles version dryRun files s = run
    obtain ⟨after, outcome⟩ := run
    cases outcome <;> rfl
  · have hwrite : s.write dryRun file text newText =
        if dryRun = true then s else s.set file (String.ofList newText) := by
      simp only [Sources.write, h, false_or]
    simp only [h, if_false, hwrite]

/-- Either the version of the first file can be set, or the run ends there. -/
lemma replaces_or_stops (version : String) (file : SourceFile) (s : Sources) :
    (∃ text newText, s.read? file = some text ∧ Replaces file version text newText) ∨
      ∃ fault : BumpFault, fault.file? = some file ∧ ∀ files dryRun t, t.get? file = s.get? file →
        bumpFiles version dryRun (file :: files) t = (t, .error fault) := by
  cases hget : s.get? file with
  | none =>
    refine Or.inr ⟨.missingFile file, rfl, fun files dryRun t ht => ?_⟩
    rw [bumpFiles, ht]
  | some content =>
    cases hset : setVersion file version content with
    | ok texts =>
      obtain ⟨text, newText⟩ := texts
      obtain ⟨rfl, hreplaces⟩ := setVersion_eq_ok_iff.mp hset
      refine Or.inl ⟨_, newText, ?_, hreplaces⟩
      rw [Sources.read?, hget, Option.map_some]
    | error fault =>
      refine Or.inr ⟨fault, ?_, fun files dryRun t ht => ?_⟩
      · rw [setVersion_eq_error hset, BumpFault.file?]
      · rw [bumpFiles, ht]
        simp only [hset]

/-- What a run reports depends only on its files, and not on whether they are written. -/
lemma snd_bumpFiles_eq (hnodup : files.Nodup) (h : ∀ file ∈ files, t.get? file = s.get? file) :
    (bumpFiles version dryRun files t).2 = (bumpFiles version dryRun' files s).2 := by
  induction files generalizing s t with
  | nil => rfl
  | cons file files ih =>
    obtain ⟨hfile, hfiles⟩ := List.nodup_cons.mp hnodup
    have hget := h file List.mem_cons_self
    rcases replaces_or_stops version file s with ⟨text, newText, hread, hset⟩ | ⟨fault, -, hstops⟩
    · have hread' := (Sources.read?_eq_of_get? hget).trans hread
      rw [bumpFiles_cons_of_replaces hread hset, bumpFiles_cons_of_replaces hread' hset]
      refine congrArg (Except.map _) (ih hfiles fun other hother => ?_)
      have hne : other ≠ file := ne_of_mem_of_not_mem hother hfile
      rw [Sources.get?_write_of_ne hne, Sources.get?_write_of_ne hne,
        h other (List.mem_cons_of_mem file hother)]
    · rw [hstops _ _ t hget, hstops _ _ s rfl]

lemma fst_bumpFiles_dry (version : String) (files : List SourceFile) (s : Sources) :
    (bumpFiles version true files s).1 = s := by
  induction files with
  | nil => rfl
  | cons file files ih =>
    rcases replaces_or_stops version file s with ⟨text, newText, hread, hset⟩ | ⟨fault, -, hstops⟩
    · rw [bumpFiles_cons_of_replaces hread hset, Sources.write_dry]
      exact ih
    · rw [hstops _ _ s rfl]

/-- A dry run reports what a run reports, and writes nothing. -/
theorem bumpFiles_dry (version : String) (hnodup : files.Nodup) (s : Sources) :
    bumpFiles version true files s = (s, (bumpFiles version false files s).2) :=
  Prod.ext (fst_bumpFiles_dry version files s) (snd_bumpFiles_eq hnodup fun _ _ => rfl)

/-- What a run over files that comes to its end does to the sources. -/
structure IsBumped (version : String) (files : List SourceFile) (s s' : Sources)
    (changed : List SourceFile) : Prop where
  untouched : ∀ file, file ∉ changed → s'.get? file = s.get? file
  replaced : ∀ file ∈ files, ∃ text newText, s.read? file = some text ∧
    Replaces file version text newText ∧ s'.read? file = some newText
  changed_eq : changed = files.filter fun file => s'.read? file ≠ s.read? file

/-- One more file is set before the others. -/
lemma IsBumped.cons (hversion : isVersion version) (hfile : file ∉ files)
    (hread : s.read? file = some text) (hset : Replaces file version text newText)
    (h : IsBumped version files (s.write false file text newText) s' changed) :
    IsBumped version (file :: files) s s'
      (if text = newText then changed else file :: changed) := by
  have hkept : ∀ other, other ≠ file → (s.write false file text newText).read? other =
      s.read? other := fun other hne => Sources.read?_eq_of_get? (Sources.get?_write_of_ne hne)
  have hread' : s'.read? file = some newText := by
    have hnormal := hset.normalized_new hversion (Sources.not_mem_of_read? hread)
    rw [← Sources.read?_write hread hnormal]
    refine Sources.read?_eq_of_get? (h.untouched file fun hmem => hfile ?_)
    rw [h.changed_eq] at hmem
    exact (List.mem_filter.mp hmem).1
  have hrest : files.filter (fun other => s'.read? other ≠ s.read? other) = changed := by
    rw [h.changed_eq]
    refine List.filter_congr fun other hother => ?_
    rw [hkept other (ne_of_mem_of_not_mem hother hfile)]
  constructor
  case untouched =>
    intro other hother
    split at hother
    next heq =>
      rw [h.untouched other hother]
      subst heq
      rw [Sources.write_self]
    next =>
      rw [List.mem_cons, not_or] at hother
      rw [h.untouched other hother.2, Sources.get?_write_of_ne hother.1]
  case replaced =>
    intro other hother
    rcases List.mem_cons.mp hother with rfl | hother
    · exact ⟨text, newText, hread, hset, hread'⟩
    · obtain ⟨text', newText', hother', hset', hnew'⟩ := h.replaced other hother
      rw [hkept other (ne_of_mem_of_not_mem hother hfile)] at hother'
      exact ⟨text', newText', hother', hset', hnew'⟩
  case changed_eq =>
    rw [List.filter_cons, hrest, hread, hread']
    by_cases heq : text = newText
    · simp [heq]
    · simp [heq, Ne.symm heq]

theorem isBumped_of_bumpFiles (hversion : isVersion version) (hnodup : files.Nodup)
    (h : bumpFiles version false files s = (s', .ok changed)) :
    IsBumped version files s s' changed := by
  induction files generalizing s changed with
  | nil =>
    obtain ⟨rfl, hchanged⟩ := Prod.mk.inj h
    obtain rfl := Except.ok.inj hchanged
    exact ⟨fun _ _ => rfl, by simp, rfl⟩
  | cons file files ih =>
    obtain ⟨hfile, hfiles⟩ := List.nodup_cons.mp hnodup
    rcases replaces_or_stops version file s with ⟨text, newText, hread, hset⟩ | ⟨fault, -, hstops⟩
    · rw [bumpFiles_cons_of_replaces hread hset] at h
      obtain ⟨hafter, houtcome⟩ := Prod.mk.inj h
      obtain ⟨later, hlater, rfl⟩ := map_eq_ok_iff.mp houtcome
      exact (ih hfiles (Prod.ext hafter hlater)).cons hversion hfile hread hset
    · rw [hstops _ _ s rfl] at h
      cases (Prod.mk.inj h).2

/-- There is nothing to do where every file has the plain line of the version already. -/
lemma bumpFiles_of_settled
    (h : ∀ file ∈ files, ∃ text, s.read? file = some text ∧ Replaces file version text text) :
    bumpFiles version dryRun files s = (s, .ok []) := by
  induction files with
  | nil => rfl
  | cons file files ih =>
    obtain ⟨text, hread, hset⟩ := h file List.mem_cons_self
    rw [bumpFiles_cons_of_replaces hread hset, Sources.write_self,
      ih fun other hother => h other (List.mem_cons_of_mem file hother)]
    simp [Except.map]

/-- A run that stops leaves what the run over the files before the one it stops at leaves. -/
theorem exists_of_bumpFiles_error (h : bumpFiles version dryRun files s = (s', .error fault)) :
    ∃ done file rest changed, files = done ++ file :: rest ∧ fault.file? = some file ∧
      bumpFiles version dryRun done s = (s', .ok changed) := by
  induction files generalizing s with
  | nil => cases (Prod.mk.inj h).2
  | cons file files ih =>
    rcases replaces_or_stops version file s with ⟨text, newText, hread, hset⟩ | ⟨fault', hf, hstops⟩
    · rw [bumpFiles_cons_of_replaces hread hset] at h
      obtain ⟨hafter, houtcome⟩ := Prod.mk.inj h
      obtain ⟨done, stop, rest, changed, rfl, hstop, hdone⟩ :=
        ih (Prod.ext hafter (map_eq_error_iff.mp houtcome))
      refine ⟨file :: done, stop, rest, if text = newText then changed else file :: changed, rfl,
        hstop, ?_⟩
      rw [bumpFiles_cons_of_replaces hread hset, hdone]
      rfl
    · rw [hstops _ _ s rfl] at h
      obtain ⟨rfl, hfault⟩ := Prod.mk.inj h
      obtain rfl := Except.error.inj hfault
      exact ⟨[], file, files, [], rfl, hf, rfl⟩

end Runs

/-! ### The run over the sources -/

section Sources

variable {version : String} {dryRun : Bool} {s s' : Sources} {changed : List SourceFile}
  {fault : BumpFault}

lemma nodup_all : SourceFile.all.Nodup := by decide

lemma mem_all (file : SourceFile) : file ∈ SourceFile.all := by
  cases file <;> decide

/-- A run that comes to its end was given a version. -/
lemma isVersion_of_bump (h : bump version dryRun s = (s', .ok changed)) :
    isVersion version ∧ bumpFiles version dryRun SourceFile.all s = (s', .ok changed) := by
  unfold bump at h
  split at h
  next hversion => exact ⟨hversion, h⟩
  next => cases (Prod.mk.inj h).2

/--
A run that comes to its end replaces the first version line of every file by the plain line of the
version, which is the first version line then, and keeps the text around it. It reports the files
whose text changes and leaves the others, and when it is repeated it changes nothing. A dry run
reports the same, or stops alike, and writes nothing.
-/
theorem bump_replaces_versionLine (version : String) (s : Sources) :
    bump version true s = (s, (bump version false s).2) ∧
    ∀ s' changed, bump version false s = (s', .ok changed) →
      (∀ file, ∃ text before line after, s.read? file = some text ∧
        FirstVersionLine file.key.toList true text before line after ∧
        s'.read? file = some (before ++ versionLine file.key.toList version.toList ++ after) ∧
        FirstVersionLine file.key.toList true
          (before ++ versionLine file.key.toList version.toList ++ after) before
          (versionLine file.key.toList version.toList) after) ∧
      changed = SourceFile.all.filter (fun file => s'.read? file ≠ s.read? file) ∧
      (∀ file, file ∉ changed → s'.get? file = s.get? file) ∧
      bump version false s' = (s', .ok []) := by
  constructor
  · unfold bump
    split
    next => exact bumpFiles_dry version nodup_all s
    next => rfl
  · intro s' changed h
    obtain ⟨hversion, hrun⟩ := isVersion_of_bump h
    have hbumped := isBumped_of_bumpFiles hversion nodup_all hrun
    refine ⟨fun file => ?_, hbumped.changed_eq, hbumped.untouched, ?_⟩
    · obtain ⟨text, -, hread, ⟨before, line, after, hfirst, rfl⟩, hread'⟩ :=
        hbumped.replaced file (mem_all file)
      exact ⟨text, before, line, after, hread, hfirst, hread',
        hfirst.replace (isKey_key file) (isVersionLine_versionLine hversion _)⟩
    · rw [bump, if_pos hversion]
      refine bumpFiles_of_settled fun file hfile => ?_
      obtain ⟨text, newText, -, hset, hread'⟩ := hbumped.replaced file hfile
      exact ⟨newText, hread', hset.settled hversion⟩

/-- A package that has the version already, and a project with two version lines. -/
theorem bump_replaces_versionLine_acrossLines :
    ∃ s' : Sources, bump "0.2.0" false ⟨some "__version__ = \"0.2.0\"\r\n",
        some "[project]\nversion=\n  \"0.1.0\"\nversion = \"1\"\n"⟩ = (s', .ok [.project]) ∧
      s'.get? .package = some "__version__ = \"0.2.0\"\r\n" ∧
      s'.read? .project = some "[project]\nversion = \"0.2.0\"\nversion = \"1\"\n".toList ∧
      bump "0.2.0" false s' = (s', .ok []) := by
  obtain ⟨-, hruns⟩ := bump_replaces_versionLine "0.2.0"
    ⟨some "__version__ = \"0.2.0\"\r\n",
      some "[project]\nversion=\n  \"0.1.0\"\nversion = \"1\"\n"⟩
  have hrun : bump "0.2.0" false ⟨some "__version__ = \"0.2.0\"\r\n",
      some "[project]\nversion=\n  \"0.1.0\"\nversion = \"1\"\n"⟩ =
      (⟨some "__version__ = \"0.2.0\"\r\n",
        some "[project]\nversion = \"0.2.0\"\nversion = \"1\"\n"⟩, .ok [.project]) := rfl
  obtain ⟨-, -, huntouched, hagain⟩ := hruns _ _ hrun
  exact ⟨_, hrun, huntouched .package (by decide), rfl, hagain⟩

/-- A run that stops can leave the sources changed: the package is set before the project. -/
theorem not_bump_error_unchanged :
    ¬ ∀ (version : String) (dryRun : Bool) (package project : String) (s' : Sources)
        (fault : BumpFault),
      bump version dryRun ⟨some package, some project⟩ = (s', .error fault) →
      s' = ⟨some package, some project⟩ := by
  intro h
  have hrun : bump "0.2.0" false ⟨some "__version__ = \"0.1.0\"\n", some "[project]\n"⟩ =
      (⟨some "__version__ = \"0.2.0\"\n", some "[project]\n"⟩,
        .error (.noVersionLine .project)) := rfl
  exact absurd (h _ _ _ _ _ _ hrun) (by decide)

/-- A run that stops has done nothing, or has set the package and stops at the project. -/
lemma eq_or_package_of_bump_error (h : bump version dryRun s = (s', .error fault)) :
    (s' = s ∧ fault.file? ≠ some .project) ∨
      (isVersion version ∧ fault.file? = some .project ∧
        ∃ changed, bumpFiles version dryRun [.package] s = (s', .ok changed)) := by
  unfold bump at h
  split at h
  next hversion =>
    obtain ⟨done, stop, rest, changed, hfiles, hstop, hdone⟩ := exists_of_bumpFiles_error h
    cases done with
    | nil =>
      obtain ⟨rfl, -⟩ := List.cons.inj hfiles
      exact Or.inl ⟨(Prod.mk.inj hdone).1.symm, by rw [hstop]; decide⟩
    | cons file done =>
      obtain ⟨rfl, hothers⟩ := List.cons.inj hfiles
      cases done with
      | nil =>
        obtain ⟨rfl, -⟩ := List.cons.inj hothers
        exact Or.inr ⟨hversion, hstop, changed, hdone⟩
      | cons other done => simp [SourceFile.all] at hfiles
  next =>
    obtain ⟨rfl, hfault⟩ := Prod.mk.inj h
    obtain rfl := Except.error.inj hfault
    exact Or.inl ⟨rfl, by simp [BumpFault.file?]⟩

/-- Setting the package alone changes nothing else, and nothing when it has the version already. -/
lemma IsBumped.package_only (h : IsBumped version [.package] s s' changed) :
    s'.project = s.project ∧
      (s' = s ↔ ∃ text, s.read? .package = some text ∧ Replaces .package version text text) := by
  obtain ⟨text, newText, hread, hset, hread'⟩ := h.replaced .package List.mem_cons_self
  have hproject : s'.get? .project = s.get? .project := by
    refine h.untouched .project fun hmem => ?_
    rw [h.changed_eq] at hmem
    exact absurd (List.mem_filter.mp hmem).1 (by decide)
  refine ⟨hproject, ?_, ?_⟩
  · rintro rfl
    obtain rfl := Option.some.inj (hread.symm.trans hread')
    exact ⟨text, hread, hset⟩
  · rintro ⟨text', htext', hsettled⟩
    obtain rfl := Option.some.inj (hread.symm.trans htext')
    obtain rfl := hset.unique hsettled
    refine Sources.ext_get? fun file => h.untouched file fun hmem => ?_
    rw [h.changed_eq] at hmem
    obtain ⟨hpackage, hchanged⟩ := List.mem_filter.mp hmem
    obtain rfl := List.mem_singleton.mp hpackage
    simp [hread, hread'] at hchanged

/--
A run that stops leaves the project as it was, and all of the sources unless it stops at the project
after it has changed the package. Then the package holds the version, and the project does not.
-/
theorem bump_error_unchanged_iff (h : bump version dryRun s = (s', .error fault)) :
    s'.project = s.project ∧
    (s' = s ↔ dryRun = true ∨ fault.file? ≠ some .project ∨
      ∃ text, s.read? .package = some text ∧ Replaces .package version text text) ∧
    (s' ≠ s → ∃ text newText, s.read? .package = some text ∧
      Replaces .package version text newText ∧ s'.read? .package = some newText) := by
  rcases eq_or_package_of_bump_error h with ⟨rfl, hfault⟩ | ⟨hversion, hfault, changed, hrun⟩
  · exact ⟨rfl, iff_of_true rfl (Or.inr (Or.inl hfault)), fun hne => absurd rfl hne⟩
  cases dryRun with
  | true =>
    obtain rfl : s = s' := by
      rw [bumpFiles_dry version (by simp)] at hrun
      exact (Prod.mk.inj hrun).1
    exact ⟨rfl, iff_of_true rfl (Or.inl rfl), fun hne => absurd rfl hne⟩
  | false =>
    have hbumped := isBumped_of_bumpFiles hversion (by simp) hrun
    obtain ⟨hproject, hsame⟩ := hbumped.package_only
    refine ⟨hproject, ?_, fun _ => hbumped.replaced .package List.mem_cons_self⟩
    rw [hsame, or_iff_right (by decide), or_iff_right (not_not_intro hfault)]

/-- A run that stops at the project leaves the package changed, and leaves it if it had the version. -/
theorem bump_error_unchanged_iff_noVersionLine :
    (∃ s' : Sources, bump "0.2.0" false ⟨some "__version__ = \"0.1.0\"\n", some "[project]\n"⟩ =
        (s', .error (.noVersionLine .project)) ∧
      s' ≠ ⟨some "__version__ = \"0.1.0\"\n", some "[project]\n"⟩ ∧
      s'.project = some "[project]\n") ∧
    ∃ s' : Sources, bump "0.2.0" true ⟨some "__version__ = \"0.1.0\"\n", some "[project]\n"⟩ =
        (s', .error (.noVersionLine .project)) ∧
      s' = ⟨some "__version__ = \"0.1.0\"\n", some "[project]\n"⟩ := by
  have hrun : bump "0.2.0" false ⟨some "__version__ = \"0.1.0\"\n", some "[project]\n"⟩ =
      (⟨some "__version__ = \"0.2.0\"\n", some "[project]\n"⟩,
        .error (.noVersionLine .project)) := rfl
  have hdry : bump "0.2.0" true ⟨some "__version__ = \"0.1.0\"\n", some "[project]\n"⟩ =
      (⟨some "__version__ = \"0.1.0\"\n", some "[project]\n"⟩,
        .error (.noVersionLine .project)) := rfl
  obtain ⟨hproject, -⟩ := bump_error_unchanged_iff hrun
  obtain ⟨-, hsame, -⟩ := bump_error_unchanged_iff hdry
  exact ⟨⟨_, hrun, by decide, hproject⟩, ⟨_, hdry, hsame.mpr (Or.inl rfl)⟩⟩

end Sources

end FlightUnits.Release
