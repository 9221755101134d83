import Mathlib.Data.List.Forall2
import Mathlib.Data.List.Infix
import Mathlib.Data.List.TakeWhile

/-! # Texts with holes

A template is a text with holes, each before a literal that is not empty. Filling the holes in
gives a text, and reading the text gives the values again, as long as no value contains the
letter its literal begins with. Where no two templates of a family begin alike, the text tells
which of them was filled in as well.
-/

/-- A literal that ends the value before it. -/
structure Template.Stop (Letter : Type*) where
  text : List Letter
  nonempty : text ≠ []

/-- A literal, and the literals after each hole. -/
structure Template (Letter : Type*) where
  start : List Letter
  stops : List (Template.Stop Letter)

namespace Template

variable {Letter Tag : Type*}

/-- The letter that ends the value. -/
def Stop.letter (stop : Stop Letter) : Letter := stop.text.head stop.nonempty

/-- The text from the first hole on. -/
def fillStops : List (Stop Letter) → List (List Letter) → List Letter
  | stop :: stops, value :: values => value ++ (stop.text ++ fillStops stops values)
  | _, _ => []

/-- The text with the values in its holes. -/
def fill (template : Template Letter) (values : List (List Letter)) : List Letter :=
  template.start ++ fillStops template.stops values

/-- There is a value for each hole, and it does not contain the letter that ends it. -/
def Fits (stops : List (Stop Letter)) (values : List (List Letter)) : Prop :=
  List.Forall₂ (fun stop value => stop.letter ∉ value) stops values

theorem Stop.text_eq (stop : Stop Letter) : stop.text = stop.letter :: stop.text.tail :=
  (List.cons_head_tail stop.nonempty).symm

/-- Values without any of the letters that end them. -/
theorem fits_of_forall {stops : List (Stop Letter)} {values : List (List Letter)}
    (length : stops.length = values.length)
    (free : ∀ stop ∈ stops, ∀ value ∈ values, stop.letter ∉ value) : Fits stops values := by
  induction stops generalizing values with
  | nil =>
      cases values with
      | nil => exact .nil
      | cons => cases length
  | cons stop stops ih =>
      cases values with
      | nil => cases length
      | cons value values =>
          refine .cons (free stop List.mem_cons_self value List.mem_cons_self) ?_
          exact ih (Nat.succ.inj length) fun other inside value isValue =>
            free other (List.mem_cons_of_mem _ inside) value (List.mem_cons_of_mem _ isValue)

variable [DecidableEq Letter]

/-- The text after a literal. -/
def strip (literal text : List Letter) : Option (List Letter) :=
  if literal <+: text then some (text.drop literal.length) else none

/-- The values from the first hole on. -/
def readStops : List (Stop Letter) → List Letter → Option (List (List Letter))
  | [], text => if text = [] then some [] else none
  | stop :: stops, text => do
      let rest ← strip stop.text (text.dropWhile (· ≠ stop.letter))
      let values ← readStops stops rest
      some (text.takeWhile (· ≠ stop.letter) :: values)

/-- The values in the holes of a text. -/
def read (template : Template Letter) (text : List Letter) : Option (List (List Letter)) := do
  let rest ← strip template.start text
  readStops template.stops rest

variable {literal text rest value : List Letter} {values values' : List (List Letter)}
variable {stop : Stop Letter} {stops : List (Stop Letter)} {template : Template Letter}

/-- A literal can be taken off exactly what begins with it. -/
theorem strip_eq_some : strip literal text = some rest ↔ text = literal ++ rest := by
  unfold strip
  constructor
  · intro stripped
    split at stripped
    · rename_i isPrefix
      obtain ⟨others, rfl⟩ := isPrefix
      rw [List.drop_left] at stripped
      rw [Option.some.inj stripped]
    · cases stripped
  · rintro rfl
    rw [if_pos (List.prefix_append _ _), List.drop_left]

/-- A value ends where its literal begins. -/
theorem takeWhile_stop (fits : stop.letter ∉ value) (rest : List Letter) :
    (value ++ (stop.text ++ rest)).takeWhile (· ≠ stop.letter) = value := by
  have others : ∀ letter ∈ value, decide (letter ≠ stop.letter) = true := by
    rintro letter inside
    exact decide_eq_true fun same => fits (same ▸ inside)
  rw [List.takeWhile_append_of_pos others, stop.text_eq, List.cons_append,
    List.takeWhile_cons_of_neg (by simp), List.append_nil]

/-- A value that does not hold the stop letter ends at it. -/
theorem dropWhile_stop (fits : stop.letter ∉ value) (rest : List Letter) :
    (value ++ (stop.text ++ rest)).dropWhile (· ≠ stop.letter) = stop.text ++ rest := by
  have both := List.takeWhile_append_dropWhile
    (p := fun letter => decide (letter ≠ stop.letter)) (l := value ++ (stop.text ++ rest))
  rw [takeWhile_stop fits] at both
  exact List.append_cancel_left both

/-- What is read are the values that were filled in. -/
theorem readStops_eq_some :
    readStops stops text = some values ↔ Fits stops values ∧ text = fillStops stops values := by
  induction stops generalizing text values with
  | nil =>
      constructor
      · intro found
        simp only [readStops] at found
        split at found
        · rename_i empty
          cases found
          exact ⟨.nil, empty⟩
        · cases found
      · rintro ⟨fits, rfl⟩
        cases fits
        rfl
  | cons stop stops ih =>
      constructor
      · intro found
        obtain ⟨rest, stripped, found⟩ := Option.bind_eq_some_iff.mp found
        obtain ⟨others, read, same⟩ := Option.bind_eq_some_iff.mp found
        obtain ⟨fits, rfl⟩ := ih.mp read
        cases same
        refine ⟨.cons (fun inside => ?_) fits, ?_⟩
        · have different := List.mem_takeWhile_imp inside
          simp at different
        · rw [fillStops, ← strip_eq_some.mp stripped, List.takeWhile_append_dropWhile]
      · rintro ⟨fits, rfl⟩
        cases fits with
        | cons here fits =>
            rename_i value values
            simp only [readStops, fillStops, takeWhile_stop here, dropWhile_stop here]
            rw [strip_eq_some.mpr rfl, Option.bind_eq_bind, Option.bind_some,
              ih.mpr ⟨fits, rfl⟩]
            rfl

/-- Reading gives the values, and only of texts that have the form of the template. -/
theorem read_eq_some :
    template.read text = some values ↔
      Fits template.stops values ∧ text = template.fill values := by
  constructor
  · intro found
    obtain ⟨rest, stripped, read⟩ := Option.bind_eq_some_iff.mp found
    obtain ⟨fits, rfl⟩ := readStops_eq_some.mp read
    exact ⟨fits, strip_eq_some.mp stripped⟩
  · rintro ⟨fits, rfl⟩
    rw [read, fill, strip_eq_some.mpr rfl, Option.bind_eq_bind, Option.bind_some]
    exact readStops_eq_some.mpr ⟨fits, rfl⟩

/-- No template begins as another one. -/
def Apart (templates : Tag → Template Letter) : Prop :=
  ∀ tag other, (templates tag).start <+: (templates other).start → tag = other

/-- Reading with the first template that accepts the text. -/
def readAny (templates : Tag → Template Letter) (tags : List Tag) (text : List Letter) :
    Option (Tag × List (List Letter)) :=
  tags.findSome? fun tag => ((templates tag).read text).map fun values => (tag, values)

/-- At most one template of the family has the form of a text. -/
theorem Apart.unique {templates : Tag → Template Letter} (apart : Apart templates) {tag other : Tag}
    (isRead : (templates tag).read text = some values)
    (isOther : (templates other).read text = some values') : tag = other := by
  have start : (templates tag).start <+: text := by
    rw [(read_eq_some.mp isRead).2]
    exact List.prefix_append _ _
  have start' : (templates other).start <+: text := by
    rw [(read_eq_some.mp isOther).2]
    exact List.prefix_append _ _
  rcases List.prefix_or_prefix_of_prefix start start' with before | before
  · exact apart tag other before
  · exact (apart other tag before).symm

/-- The text tells which template of a family was filled in, and with which values. -/
theorem Apart.readAny_eq_some {templates : Tag → Template Letter} (apart : Apart templates)
    {tags : List Tag} {tag : Tag} (inside : tag ∈ tags) :
    readAny templates tags text = some (tag, values) ↔
      Fits (templates tag).stops values ∧ text = (templates tag).fill values := by
  rw [← read_eq_some]
  constructor
  · intro found
    obtain ⟨other, -, isRead⟩ := List.exists_of_findSome?_eq_some found
    obtain ⟨others, isOther, same⟩ := Option.map_eq_some_iff.mp isRead
    cases same
    exact isOther
  · intro isRead
    cases found : readAny templates tags text with
    | none =>
        have nothing := List.findSome?_eq_none_iff.mp found tag inside
        rw [isRead] at nothing
        cases nothing
    | some outcome =>
        obtain ⟨other, -, isFound⟩ := List.exists_of_findSome?_eq_some found
        obtain ⟨others, isOther, rfl⟩ := Option.map_eq_some_iff.mp isFound
        obtain rfl := apart.unique isRead isOther
        cases isRead.symm.trans isOther
        rfl

end Template
