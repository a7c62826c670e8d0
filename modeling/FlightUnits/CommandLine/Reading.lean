import FlightUnits.CommandLine.Grammar

/-!
# Reading a command line

The words are taken in their order. Up to the next flag, as many slots are filled as the words
allow, and a word that fills none is left over; a flag takes the words attached to it or following
it. What the words of an argument mean is checked as soon as they are taken. A slot that needs a
word and gets none is missed only at the end.
-/

namespace FlightUnits.CommandLine

variable {σ : Type}

/-- The words of an argument without the first divider among them. -/
def dropDivider (words : List String) : List String := words.erase "--"

namespace Slot

/-- The number of words at the start of a text that fill a slot, if they can. -/
def take? (capacity : Capacity) (roles : List (Role σ)) : Option Nat :=
  let before := (roles.takeWhile Role.isDivider).length
  let rest := roles.drop before
  match capacity with
  | .remainder => if (rest.head?.map Role.isArgument).getD false then some roles.length else none
  | .one =>
    match rest with
    | .argument :: rest => some (before + 1 + (rest.takeWhile Role.isDivider).length)
    | _ => none
  | .optional =>
    match rest with
    | .argument :: rest => some (before + 1 + (rest.takeWhile Role.isDivider).length)
    | _ => some before

/-- The words with which a slot is filled; a slot for the remainder keeps dividers. -/
def wordsFor (capacity : Capacity) (words : List String) : List String :=
  if capacity = .remainder then words else dropDivider words

end Slot

/-- What reading has come to: the slots still empty, the settings and the words left over. -/
structure Progress (σ : Type) where
  slots : List (Slot σ)
  settings : σ
  extras : List String

namespace Grammar

/-- A complaint of the argument of a name. -/
def naming (g : Grammar σ) (name : String) : Complaint → Halt
  | .misused message => .refused g.program ("argument " ++ name ++ ": " ++ message)
  | .ended halt => halt

/-- Lets a flag act on its words. -/
def act (g : Grammar σ) (f : Flag σ) (words : List String) (s : σ) : Except Halt σ :=
  (f.act (dropDivider words) s).mapError (g.naming ("/".intercalate f.names))

/-- A complaint about the use of a flag. -/
def misuse {α : Type} (g : Grammar σ) (f : Flag σ) (message : String) : Except Halt α :=
  .error (g.naming ("/".intercalate f.names) (.misused message))

/-- Fills slots from the start of the words, and tells how many words that took. -/
def fill (g : Grammar σ) : List (Slot σ) → List (String × Role σ) → σ →
    Except Halt (List (Slot σ) × σ × Nat)
  | [], _, s => .ok ([], s, 0)
  | slot :: slots, words, s =>
    match Slot.take? slot.capacity (words.map Prod.snd) with
    | none => .ok (slot :: slots, s, 0)
    | some taken => do
      let own := Slot.wordsFor slot.capacity ((words.take taken).map Prod.fst)
      let s ← (slot.act own s).mapError (g.naming slot.name)
      let (slots, s, more) ← g.fill slots (words.drop taken) s
      return (slots, s, taken + more)

/-- The flags that one word gives: all but the last take no words. -/
structure Spread (σ : Type) where
  before : List (Flag σ)
  last : Flag σ
  attached : Option String

/--
The flags that a flag with an attached text stands for. The text is the word of a flag that takes
one; after a one-letter flag that takes none, it starts with the letter of the next flag.
-/
def spread (g : Grammar σ) (f : Flag σ) (letter : Bool) : List Char → Except Halt (Spread σ)
  | [] =>
    if f.arity = 1 then .ok ⟨[], f, some ""⟩
    else if f.arity = 0 then g.misuse f ("ignored explicit argument " ++ Text.quoted "")
    else g.misuse f ("expected " ++ toString f.arity ++ " arguments")
  | c :: cs =>
    let attached := String.ofList (c :: cs)
    if f.arity = 1 then .ok ⟨[], f, some attached⟩
    else if f.arity ≠ 0 then g.misuse f ("expected " ++ toString f.arity ++ " arguments")
    else
      match letter, g.flag? (String.ofList ['-', c]), cs with
      | true, some next, [] => .ok ⟨[f], next, none⟩
      | true, some next, cs => do
        let more ← g.spread next true cs
        return ⟨f :: more.before, more.last, more.attached⟩
      | _, _, _ => g.misuse f ("ignored explicit argument " ++ Text.quoted attached)

/-- The flags that a flag, as it was given, stands for. -/
def GivenFlag.spread (g : Grammar σ) (given : GivenFlag σ) : Except Halt (Spread σ) :=
  match given.attached with
  | some attached =>
    g.spread given.flag (given.name.toList.take 2 != ['-', '-']) attached.toList
  | none => .ok ⟨[], given.flag, none⟩

/-- The words that follow a flag as its own, if there are enough arguments. -/
def followers (g : Grammar σ) (f : Flag σ) (words : List (String × Role σ)) :
    Except Halt (List String) :=
  let own := words.take f.arity
  if own.length = f.arity && own.all fun word => word.2.isArgument then .ok (own.map Prod.fst)
  else if f.arity = 1 then g.misuse f "expected one argument"
  else g.misuse f ("expected " ++ toString f.arity ++ " arguments")

/-- Lets the flags of one word act, and tells how many of the following words that took. -/
def useFlag (g : Grammar σ) (given : GivenFlag σ) (words : List (String × Role σ)) (s : σ) :
    Except Halt (σ × Nat) := do
  let spread ← GivenFlag.spread g given
  let (own, taken) ← match spread.attached with
    | some attached => pure ([attached], 0)
    | none => (g.followers spread.last words).map fun own => (own, own.length)
  let s ← spread.before.foldlM (fun s f => g.act f [] s) s
  let s ← g.act spread.last own s
  return (s, taken)

theorem length_drop_lt_length_cons {α : Type} (a : α) (l : List α) (n : Nat) :
    (l.drop n).length < (a :: l).length :=
  Nat.lt_succ_of_le (List.drop_sublist n l).length_le

theorem length_dropWhile_lt_length_cons {α : Type} (a : α) (l : List α) (p : α → Bool) :
    (l.dropWhile p).length < (a :: l).length :=
  Nat.lt_succ_of_le (List.dropWhile_sublist p).length_le

/-- Reads the words from some point on. -/
def readFrom (g : Grammar σ) (p : Progress σ) : List (String × Role σ) →
    Except Halt (Progress σ)
  | [] => do
    let (slots, s, _) ← g.fill p.slots [] p.settings
    return ⟨slots, s, p.extras⟩
  | (word, role) :: rest =>
    match role with
    | .flag given => do
      let (s, taken) ← g.useFlag given rest p.settings
      g.readFrom ⟨p.slots, s, p.extras⟩ (rest.drop taken)
    | .unknownFlag => g.readFrom ⟨p.slots, p.settings, p.extras ++ [word]⟩ rest
    | role => do
      let words := (word, role) :: rest
      let (slots, s, taken) ← g.fill p.slots words p.settings
      if rest.any fun word => word.2.isFlag then
        match taken with
        | taken + 1 => g.readFrom ⟨slots, s, p.extras⟩ (rest.drop taken)
        | 0 =>
          let skipped := (words.takeWhile fun word => !word.2.isFlag).map Prod.fst
          g.readFrom ⟨slots, s, p.extras ++ skipped⟩ (rest.dropWhile fun word => !word.2.isFlag)
      else return ⟨slots, s, p.extras ++ (words.drop taken).map Prod.fst⟩
termination_by words => words.length
decreasing_by
  · exact length_drop_lt_length_cons _ _ _
  · exact Nat.lt_succ_self _
  · exact length_drop_lt_length_cons _ _ _
  · exact length_dropWhile_lt_length_cons _ _ _

/-- The settings that words make, and the words left over. -/
def read (g : Grammar σ) (words : List String) (s : σ) : Except Halt (σ × List String) := do
  let roles ← g.roles words
  let p ← g.readFrom ⟨g.slots, s, []⟩ roles
  match p.slots.filter fun slot => slot.capacity = .one with
  | [] => return (p.settings, p.extras)
  | missed =>
    throw (.refused g.program ("the following arguments are required: " ++
      ", ".intercalate (missed.map Slot.name)))

/-- The settings that words make, if no words are left over. -/
def readAll (g : Grammar σ) (words : List String) (s : σ) (leftOver : σ → List String) :
    Except Halt σ := do
  let (s, extras) ← g.read words s
  match extras ++ leftOver s with
  | [] => return s
  | extras => throw (.refused g.program ("unrecognized arguments: " ++ " ".intercalate extras))

end Grammar

end FlightUnits.CommandLine
