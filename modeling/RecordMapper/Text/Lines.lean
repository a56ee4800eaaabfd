import RecordMapper.Text.CharClass

/-!
# Cutting and joining text

The operations on lines and pieces of text that source emission is built from. Cutting and
replacing are recursive on the characters, so that each has a short equation for every case.
-/
namespace RecordMapper.Text

/-- The pieces between the occurrences of `separator`; always at least one. -/
def pieces (separator : Char) : List Char → List (List Char)
  | [] => [[]]
  | c :: rest =>
    if c = separator then [] :: pieces separator rest
    else match pieces separator rest with
      | piece :: others => (c :: piece) :: others
      | [] => [[c]]

theorem pieces_ne_nil (separator : Char) (cs : List Char) : pieces separator cs ≠ [] := by
  cases cs with
  | nil => simp [pieces]
  | cons c rest =>
    rw [pieces]
    split
    · simp
    · split <;> simp

/-- Putting the separator between the pieces gives the text back. -/
theorem intercalate_pieces (separator : Char) (cs : List Char) :
    [separator].intercalate (pieces separator cs) = cs := by
  induction cs with
  | nil => simp [pieces]
  | cons c rest ih =>
    obtain ⟨piece, others, h⟩ := List.exists_cons_of_ne_nil (pieces_ne_nil separator rest)
    rw [h] at ih
    by_cases hc : c = separator
    · simp [pieces, hc, h, ih]
    · cases others <;> simp_all [pieces, List.intercalate]

theorem not_mem_of_mem_pieces {separator : Char} {cs piece : List Char}
    (h : piece ∈ pieces separator cs) : separator ∉ piece := by
  induction cs generalizing piece with
  | nil => simp_all [pieces]
  | cons c rest ih =>
    obtain ⟨first, others, hp⟩ := List.exists_cons_of_ne_nil (pieces_ne_nil separator rest)
    by_cases hc : c = separator
    · simp only [pieces, hc, if_true, List.mem_cons] at h
      rcases h with rfl | h
      · simp
      · exact ih h
    · simp only [pieces, hc, if_false, hp, List.mem_cons] at h
      rcases h with rfl | h
      · have hf := ih (hp ▸ List.mem_cons_self)
        simp [Ne.symm hc, hf]
      · exact ih (hp ▸ List.mem_cons_of_mem _ h)

def split (separator : Char) (s : String) : List String :=
  (pieces separator s.toList).map String.ofList

/-- What is before and what is after the first occurrence of `separator`; all and nothing when it
does not occur. -/
def cutFirst (separator : Char) (s : String) : String × String :=
  let cs := s.toList
  (String.ofList (cs.takeWhile (· ≠ separator)),
    String.ofList ((cs.dropWhile (· ≠ separator)).drop 1))

/-- The texts one after another with `separator` between neighbours. -/
def join (separator : String) : List String → String
  | [] => ""
  | [s] => s
  | s :: rest => s ++ separator ++ join separator rest

theorem join_singleton (separator s : String) : join separator [s] = s := by rw [join]

/-- Replaces the occurrences of a pattern from left to right, without overlaps, after passing over
the first `covered` characters, which belong to an occurrence already replaced. -/
def replaceFrom (pattern replacement : List Char) : Nat → List Char → List Char
  | _, [] => []
  | covered + 1, _ :: rest => replaceFrom pattern replacement covered rest
  | 0, c :: rest =>
    if pattern.isPrefixOf (c :: rest) then
      replacement ++ replaceFrom pattern replacement (pattern.length - 1) rest
    else c :: replaceFrom pattern replacement 0 rest

theorem replaceFrom_nil (pattern replacement : List Char) (covered : Nat) :
    replaceFrom pattern replacement covered [] = [] := by
  rw [replaceFrom]

/-- Every occurrence of a non-empty pattern replaced. -/
def replaceAll (pattern replacement s : String) : String :=
  String.ofList (replaceFrom pattern.toList replacement.toList 0 s.toList)

/-- `count` spaces, none for a negative count. -/
def spaces (count : Int) : String := String.ofList (List.replicate count.toNat ' ')

/-- The white space before a line at `level`, each level being `size` wide. -/
def marginOf (level size : Int) : String := spaces (level * size)

/-- The margin of generated code, two spaces a level. -/
def margin (level : Nat) : String := marginOf level 2

/-- Moves lines right by a margin, except the blank ones. -/
def indentBy (level size : Int) (lines : List String) : List String :=
  lines.map fun line => if isBlankText line then line else marginOf level size ++ line

def indent (level : Nat) (lines : List String) : List String := indentBy level 2 lines

/-- Writes the breaks between lines as `eol`. -/
def withLineBreak (eol text : String) : String :=
  if eol = "\n" then text else replaceAll "\n" eol text

/-- Whether there is a NUL in a text. -/
def hasNul (s : String) : Bool := s.toList.any (· = '\x00')

/-- The number of lines; a last line without a break counts. -/
def countLines (content : String) : Nat :=
  if content.isEmpty then 0
  else content.toList.count '\n' + (if content.toList.getLast? = some '\n' then 0 else 1)

/-- A text filled up with spaces to a width, on the right. -/
def padRight (width : Nat) (s : String) : String := s ++ spaces (width - s.length : Nat)

/-- A text filled up with spaces to a width, on the left. -/
def padLeft (width : Nat) (s : String) : String := spaces (width - s.length : Nat) ++ s

end RecordMapper.Text
