/-!
# Classes of characters

A class of characters is given by the ranges of their numbers, both ends included. A function on
characters is given by runs, in which characters and their images lie at the same distances. The
class that matters most is that of blanks, the characters with the White_Space property.
-/

set_option autoImplicit false

namespace AmqpEndpoints.Text

/-!
## Ranges and runs
-/

def inRanges (ranges : List (Nat × Nat)) (c : Char) : Bool :=
  ranges.any fun range => range.1 ≤ c.toNat && c.toNat ≤ range.2

/-- Characters at equal distances, whose images lie at the same distances. -/
structure Run where
  first : Nat
  last : Nat
  /-- The distance of neighbours. -/
  step : Nat
  /-- The image of the first character. -/
  image : Nat
  deriving DecidableEq, Repr

namespace Run

def covers (run : Run) (c : Char) : Bool :=
  run.first ≤ c.toNat && c.toNat ≤ run.last && (c.toNat - run.first) % run.step == 0

def apply (run : Run) (c : Char) : Char :=
  Char.ofNat (run.image + (c.toNat - run.first))

end Run

/-- The image of a character, if one of the runs covers it. -/
def image? (runs : List Run) (c : Char) : Option Char :=
  (runs.find? (·.covers c)).map (·.apply c)

/-!
## Blanks
-/

/-- Whether a character has the White_Space property. -/
def isBlank (c : Char) : Bool :=
  let code := c.toNat
  (9 ≤ code && code ≤ 13) || code == 0x20 || code == 0x85 || code == 0xA0 || code == 0x1680 ||
    (0x2000 ≤ code && code ≤ 0x200A) || code == 0x2028 || code == 0x2029 || code == 0x202F ||
    code == 0x205F || code == 0x3000

def dropBlanks (text : List Char) : List Char :=
  text.dropWhile isBlank

/-- A list of characters without the blanks at its ends. -/
def trimBlanks (text : List Char) : List Char :=
  (dropBlanks (dropBlanks text).reverse).reverse

/-- A text without the blanks at its ends. -/
def trim (text : String) : String :=
  String.ofList (trimBlanks text.toList)

/-- Whether a text holds nothing but blanks. -/
def blank (text : String) : Bool :=
  text.toList.all isBlank

/-- Dropping blanks leaves nothing exactly when there is nothing but blanks. -/
theorem dropBlanks_eq_nil_iff (text : List Char) :
    dropBlanks text = [] ↔ text.all isBlank = true := by
  induction text with
  | nil => simp [dropBlanks]
  | cons c rest ih =>
      rw [dropBlanks, List.dropWhile_cons]
      cases blank : isBlank c with
      | true => simp [blank, ← ih, dropBlanks]
      | false => simp [blank]

theorem dropBlanks_of_head {text : List Char} (first : ∀ c ∈ text.head?, isBlank c = false) :
    dropBlanks text = text := by
  cases text with
  | nil => rfl
  | cons c rest => simp [dropBlanks, first c rfl]

theorem head_dropBlanks {text : List Char} {c : Char} (first : c ∈ (dropBlanks text).head?) :
    isBlank c = false := by
  have heads := List.head?_dropWhile_not isBlank text
  rw [dropBlanks] at first
  rw [Option.mem_def.mp first] at heads
  exact heads

theorem dropBlanks_idem (text : List Char) : dropBlanks (dropBlanks text) = dropBlanks text :=
  dropBlanks_of_head fun _ first => head_dropBlanks first

/-- A text without blanks at its ends has none to lose. -/
theorem trimBlanks_idem (text : List Char) : trimBlanks (trimBlanks text) = trimBlanks text := by
  have front : trimBlanks text <+: dropBlanks text := by
    have back : dropBlanks (dropBlanks text).reverse <:+ (dropBlanks text).reverse :=
      List.dropWhile_suffix _
    have turned := List.reverse_prefix.mpr back
    rwa [List.reverse_reverse] at turned
  have same : dropBlanks (trimBlanks text) = trimBlanks text := by
    refine dropBlanks_of_head fun c first => @head_dropBlanks text c ?_
    cases trimmed : trimBlanks text with
    | nil =>
        rw [trimmed] at first
        cases first
    | cons d rest =>
        rw [trimmed] at first front
        obtain ⟨others, whole⟩ := front
        rw [← whole]
        exact first
  rw [trimBlanks, same, trimBlanks, List.reverse_reverse, dropBlanks_idem]

/-- Blanks at both ends of a text without blanks are all that trimming takes. -/
theorem trimBlanks_between {front text back : List Char} (some : text ≠ [])
    (before : ∀ c ∈ front, isBlank c = true) (visible : ∀ c ∈ text, isBlank c = false)
    (after : ∀ c ∈ back, isBlank c = true) : trimBlanks (front ++ (text ++ back)) = text := by
  have drop : ∀ {blanks middle rest : List Char}, (∀ c ∈ blanks, isBlank c = true) →
      middle ≠ [] → (∀ c ∈ middle, isBlank c = false) →
        dropBlanks (blanks ++ (middle ++ rest)) = middle ++ rest := by
    intro blanks middle rest blank some visible
    obtain ⟨c, others, rfl⟩ := List.exists_cons_of_ne_nil some
    rw [dropBlanks, List.dropWhile_append_of_pos blank, List.cons_append, List.dropWhile_cons,
      visible c List.mem_cons_self]
    rfl
  have turned := @drop back.reverse text.reverse [] (by simpa using after) (by simpa using some)
    (by simpa using visible)
  rw [List.append_nil] at turned
  rw [trimBlanks, drop before some visible, List.reverse_append, turned, List.reverse_reverse]

theorem trimBlanks_eq_self {text : List Char} (none : ∀ c ∈ text, isBlank c = false) :
    trimBlanks text = text := by
  have same : ∀ list : List Char, (∀ c ∈ list, isBlank c = false) → dropBlanks list = list :=
    fun list none => dropBlanks_of_head fun c first => none c (List.mem_of_mem_head? first)
  rw [trimBlanks, same text none, same _ fun c member => none c (List.mem_reverse.mp member),
    List.reverse_reverse]

end AmqpEndpoints.Text
