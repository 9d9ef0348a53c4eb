/-
# Texts of a host

A text that a host hands over is a row of code points. Nearly all of them are
characters; a surrogate can stand there on its own too, since an escape in a
configuration file may name one, and no `String` holds it. A `Text` keeps such
points, tells where they are (`Text.toString?`) and can show a sign in their place
(`Text.shown`).
-/

namespace ChipEight

namespace Text

/-- The least surrogate. -/
def firstSurrogate : Nat := 0xD800

/-- One place of a text. -/
inductive Point
  | char (c : Char)
  /-- A surrogate on its own, counted from the least one. -/
  | surrogate (offset : Fin 2048)
  deriving DecidableEq, Repr

namespace Point

/-- The number of a code point. -/
def code : Point → Nat
  | char c => c.toNat
  | surrogate offset => firstSurrogate + offset.val

/-- The code point of a number below `0x110000`. -/
def ofCode (code : Nat) : Point :=
  if h : code - firstSurrogate < 2048 then
    if firstSurrogate ≤ code then surrogate ⟨code - firstSurrogate, h⟩ else char (Char.ofNat code)
  else char (Char.ofNat code)

/-- The character, unless it is a surrogate. -/
def char? : Point → Option Char
  | char c => some c
  | surrogate _ => none

/-- The character, or the sign that stands for what is none. -/
def shown : Point → Char
  | char c => c
  | surrogate _ => '\uFFFD'

@[simp] theorem char?_char (c : Char) : (char c).char? = some c := rfl

@[simp] theorem shown_char (c : Char) : (char c).shown = c := rfl

end Point

end Text

/-- A row of code points. -/
structure Text where
  points : List Text.Point
  deriving DecidableEq, Repr

namespace Text

/-- The text of characters. -/
def ofList (cs : List Char) : Text := ⟨cs.map .char⟩

/-- The text of a string. -/
def ofString (s : String) : Text := ofList s.toList

instance : Coe String Text := ⟨ofString⟩

instance : Inhabited Text := ⟨⟨[]⟩⟩

/-- One text behind another. -/
def append (s t : Text) : Text := ⟨s.points ++ t.points⟩

instance : Append Text := ⟨append⟩

/-- No code points at all. -/
def isEmpty (t : Text) : Bool := t.points.isEmpty

/-- The string of a text without surrogates. -/
def toString? (t : Text) : Option String := (t.points.mapM Point.char?).map String.ofList

/-- The text with a sign in the place of each surrogate. -/
def shown (t : Text) : String := String.ofList (t.points.map Point.shown)

/-- Texts in a row, with another between each two. -/
def intercalate (between : Text) (ts : List Text) : Text :=
  ⟨List.intercalate between.points (ts.map points)⟩

/-- The parts of a row of code points between the places of a character. -/
def splitPoints (separator : Char) : List Point → List (List Point)
  | [] => [[]]
  | p :: ps =>
    if p = .char separator then [] :: splitPoints separator ps
    else match splitPoints separator ps with
      | [] => [[p]]
      | part :: parts => (p :: part) :: parts

/-- The parts of a text between the places of a character. -/
def splitOn (t : Text) (separator : Char) : List Text := (splitPoints separator t.points).map mk

/-- The order of rows of code points: the first that differ decide, and what is cut
short comes first. -/
def pointsPrecede : List Point → List Point → Bool
  | [], _ => true
  | _ :: _, [] => false
  | p :: ps, q :: qs => p.code < q.code || (p.code = q.code && pointsPrecede ps qs)

/-- The order of texts, that of their code points. -/
def precedes (s t : Text) : Bool := pointsPrecede s.points t.points

theorem mapM_char?_map_char (cs : List Char) : (cs.map Point.char).mapM Point.char? = some cs := by
  induction cs with
  | nil => rfl
  | cons c cs ih => simp [ih]

@[simp] theorem toString?_ofList (cs : List Char) :
    (ofList cs).toString? = some (String.ofList cs) := by
  rw [toString?, ofList, mapM_char?_map_char]; rfl

@[simp] theorem toString?_ofString (s : String) : (ofString s).toString? = some s := by
  simp [ofString]

theorem mapM_char?_eq_some {ps : List Point} {cs : List Char} (h : ps.mapM Point.char? = some cs) :
    ps = cs.map Point.char := by
  induction ps generalizing cs with
  | nil =>
    obtain rfl := Option.some.inj h
    rfl
  | cons p ps ih =>
    cases p with
    | surrogate offset => cases h
    | char c =>
      cases hps : ps.mapM Point.char? with
      | none => simp [hps] at h
      | some cs' =>
        obtain rfl : c :: cs' = cs := by simpa [hps] using h
        rw [ih hps, List.map_cons]

/-- A text without surrogates is that of its string. -/
theorem eq_ofString_of_toString? {t : Text} {s : String} (h : t.toString? = some s) :
    t = ofString s := by
  obtain ⟨cs, hcs, rfl⟩ := Option.map_eq_some_iff.1 h
  rw [ofString, String.toList_ofList, ofList, ← mapM_char?_eq_some hcs]

@[simp] theorem shown_ofString (s : String) : (ofString s).shown = s := by
  have h : Point.shown ∘ Point.char = id := rfl
  simp [ofString, ofList, shown, h]

end Text
end ChipEight
