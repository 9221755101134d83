import Mathlib.Data.List.Nodup
import Mathlib.Logic.Function.Basic

/-! # Intrusive doubly linked lists

The elements of an intrusive list carry their own links, so a list is a heap of
links together with the address of its first element, and several lists can live
in one heap. `IntrusiveList.Segment` relates a heap to the sequence of addresses
it spells from a given first element; the operations that unlink an element from
wherever it is and that put an element at the front are shown to act on that
sequence, and to leave every other list of the heap alone.
-/

namespace IntrusiveList

variable {Address : Type*}

/-- The two pointers an element carries. -/
structure Links (Address : Type*) where
  prev : Option Address
  next : Option Address
deriving DecidableEq

/-- The links of every element, by address. -/
abbrev Heap (Address : Type*) := Address → Links Address

section Writes

variable [DecidableEq Address]

/-- `target->next = value`, skipped when `target` is null. -/
def setNext (heap : Heap Address) (target value : Option Address) : Heap Address :=
  match target with
  | none => heap
  | some address => Function.update heap address { heap address with next := value }

/-- `target->prev = value`, skipped when `target` is null. -/
def setPrev (heap : Heap Address) (target value : Option Address) : Heap Address :=
  match target with
  | none => heap
  | some address => Function.update heap address { heap address with prev := value }

/-- Make the neighbours of an element point past it. -/
def unlink (heap : Heap Address) (item : Address) : Heap Address :=
  let bypassed := setNext heap (heap item).prev (heap item).next
  setPrev bypassed (bypassed item).next (bypassed item).prev

/-- Link an element in front of the list starting at `head`. -/
def pushFront (heap : Heap Address) (head : Option Address) (item : Address) : Heap Address :=
  let forward := setNext heap (some item) head
  setPrev (setPrev forward (forward item).next (some item)) (some item) none

/-- Make the second element of the list starting at `item` its first one. -/
def popFront (heap : Heap Address) (item : Address) : Heap Address :=
  setPrev heap (heap item).next none

end Writes

/-- The heap spells the given addresses from `head` on, `prev` being what the first
element points back to. -/
def Segment (heap : Heap Address) : Option Address → Option Address → List Address → Prop
  | _, head, [] => head = none
  | prev, head, item :: rest =>
      head = some item ∧ (heap item).prev = prev ∧ Segment heap (some item) (heap item).next rest

/-- The addresses met from `head` on, following `next` for at most `fuel` elements. -/
def walk (heap : Heap Address) : Nat → Option Address → List Address
  | 0, _ => []
  | _ + 1, none => []
  | fuel + 1, some item => item :: walk heap fuel (heap item).next

variable {heap other : Heap Address} {prev head : Option Address} {item : Address}
  {before after items : List Address}

@[simp] theorem segment_nil : Segment heap prev head [] ↔ head = none := Iff.rfl

@[simp] theorem segment_cons : Segment heap prev head (item :: after) ↔
    head = some item ∧ (heap item).prev = prev ∧
      Segment heap (some item) (heap item).next after := Iff.rfl

/-- The first address of a segment is the one it starts at. -/
theorem Segment.head_eq (segment : Segment heap prev head items) : head = items.head? := by
  cases items with
  | nil => exact segment
  | cons => exact segment.1

/-- A segment only depends on the links of its own elements. -/
theorem Segment.congr (segment : Segment heap prev head items)
    (agree : ∀ item ∈ items, other item = heap item) : Segment other prev head items := by
  induction items generalizing prev head with
  | nil => exact segment
  | cons item items ih =>
      obtain ⟨rfl, back, rest⟩ := segment
      have same := agree item List.mem_cons_self
      refine ⟨rfl, by rw [same]; exact back, ?_⟩
      rw [same]
      exact ih rest fun member inside => agree member (List.mem_cons_of_mem _ inside)

/-- The heap determines the sequence it spells. -/
theorem Segment.unique {items' : List Address} {prev' : Option Address}
    (segment : Segment heap prev head items) (segment' : Segment heap prev' head items') :
    items = items' := by
  induction items generalizing prev prev' head items' with
  | nil =>
      cases items' with
      | nil => rfl
      | cons => exact absurd (segment.symm.trans segment'.1) (by simp)
  | cons item items ih =>
      cases items' with
      | nil => exact absurd (segment'.symm.trans segment.1) (by simp)
      | cons item' items' =>
          obtain ⟨rfl, _, rest⟩ := segment
          obtain ⟨same, _, rest'⟩ := segment'
          cases same
          rw [ih rest rest']

/-- The part of a segment behind a given element starts at that element's `next`. -/
theorem Segment.suffix (segment : Segment heap prev head (before ++ item :: after)) :
    Segment heap (some item) (heap item).next after := by
  induction before generalizing prev head with
  | nil => exact segment.2.2
  | cons first before ih => exact ih segment.2.2

/-- The element behind a given one. -/
theorem Segment.next_eq (segment : Segment heap prev head (before ++ item :: after)) :
    (heap item).next = after.head? :=
  segment.suffix.head_eq

/-- The element in front of a given one. -/
theorem Segment.prev_eq (segment : Segment heap prev head (before ++ item :: after)) :
    (heap item).prev = before.getLast?.or prev := by
  induction before generalizing prev head with
  | nil => simpa using segment.2.1
  | cons first before ih =>
      rw [ih segment.2.2, List.getLast?_cons]
      cases before.getLast? <;> simp

/-- A null-terminated list meets no element twice. -/
theorem Segment.nodup (segment : Segment heap prev head items) : items.Nodup := by
  induction items generalizing prev head with
  | nil => exact List.nodup_nil
  | cons item items ih =>
      refine List.nodup_cons.mpr ⟨fun inside => ?_, ih segment.2.2⟩
      -- a second visit would make the rest of the list a proper part of itself
      obtain ⟨before, after, rfl⟩ := List.append_of_mem inside
      have same : before ++ item :: after = after := segment.2.2.unique segment.2.2.suffix
      have lengths := congrArg List.length same
      simp only [List.length_append, List.length_cons] at lengths
      omega

/-- With enough fuel a walk meets exactly the elements of the segment. -/
theorem Segment.walk_eq (segment : Segment heap prev head items) {fuel : Nat}
    (enough : items.length ≤ fuel) : walk heap fuel head = items := by
  induction items generalizing prev head fuel with
  | nil =>
      cases segment
      cases fuel <;> rfl
  | cons item items ih =>
      obtain ⟨rfl, _, rest⟩ := segment
      cases fuel with
      | zero => exact absurd enough (by simp)
      | succ fuel => exact congrArg (item :: ·) (ih rest (Nat.le_of_succ_le_succ enough))

section Operations

variable [DecidableEq Address]

theorem setNext_apply (target value : Option Address) (item : Address) :
    setNext heap target value item =
      if target = some item then { heap item with next := value } else heap item := by
  cases target with
  | none => simp [setNext]
  | some address =>
      by_cases same : address = item
      · subst same
        simp [setNext]
      · simp [setNext, same, Function.update_of_ne (Ne.symm same)]

theorem setPrev_apply (target value : Option Address) (item : Address) :
    setPrev heap target value item =
      if target = some item then { heap item with prev := value } else heap item := by
  cases target with
  | none => simp [setPrev]
  | some address =>
      by_cases same : address = item
      · subst same
        simp [setPrev]
      · simp [setPrev, same, Function.update_of_ne (Ne.symm same)]

/-- Writing the back pointer of the first element. -/
theorem Segment.setPrev (segment : Segment heap prev head items) (back : Option Address) :
    Segment (setPrev heap head back) back head items := by
  have nodup := segment.nodup
  cases items with
  | nil => exact segment
  | cons item items =>
      obtain ⟨rfl, _, rest⟩ := segment
      refine ⟨rfl, by simp [setPrev_apply], ?_⟩
      have kept : (IntrusiveList.setPrev heap (some item) back item).next = (heap item).next := by
        simp [setPrev_apply]
      rw [kept]
      refine rest.congr fun member inside => ?_
      have different : item ≠ member := fun same =>
        (List.nodup_cons.mp nodup).1 (same ▸ inside)
      simp [setPrev_apply, different]

/-- Pushing an element that is not in the list puts it in front. -/
theorem Segment.pushFront (segment : Segment heap prev head items) (fresh : item ∉ items) :
    Segment (pushFront heap head item) none (some item) (item :: items) := by
  have apart : head ≠ some item := by
    rw [segment.head_eq]
    exact fun first => fresh (List.mem_of_head? first)
  have forward : Segment (setNext heap (some item) head) prev head items :=
    segment.congr fun member inside => by
      have different : item ≠ member := fun same => fresh (same ▸ inside)
      simp [setNext_apply, different]
  have linked := forward.setPrev (some item)
  refine ⟨rfl, by simp [IntrusiveList.pushFront, setPrev_apply], ?_⟩
  have next : (IntrusiveList.pushFront heap head item item).next = head := by
    simp [IntrusiveList.pushFront, setPrev_apply, setNext_apply, apart]
  rw [next]
  refine linked.congr fun member inside => ?_
  have different : item ≠ member := fun same => fresh (same ▸ inside)
  simp [IntrusiveList.pushFront, setPrev_apply, setNext_apply, different]

/-- Pushing only writes the pushed element and the former first one. -/
theorem pushFront_apply_of_ne {member : Address} (different : member ≠ item)
    (apart : head ≠ some member) : pushFront heap head item member = heap member := by
  simp [pushFront, setPrev_apply, setNext_apply, different.symm, apart]

/-- Popping the first element leaves the rest of the list. -/
theorem Segment.popFront (segment : Segment heap prev head (item :: items)) :
    Segment (popFront heap item) none (heap item).next items :=
  segment.2.2.setPrev none

/-- Popping only writes the new first element. -/
theorem popFront_apply_of_ne {member : Address} (apart : (heap item).next ≠ some member) :
    popFront heap item member = heap member := by
  simp [popFront, setPrev_apply, apart]

/-- A heap in which the neighbours of an element were redirected past it spells the
list without that element. -/
theorem Segment.bypass (segment : Segment heap prev head (before ++ item :: after))
    (left : ∀ member ∈ before, other member =
      if before.getLast? = some member then { heap member with next := after.head? }
      else heap member)
    (right : ∀ member ∈ after, other member =
      if after.head? = some member then { heap member with prev := before.getLast?.or prev }
      else heap member) :
    Segment other prev (if before = [] then after.head? else head) (before ++ after) := by
  have nodup := segment.nodup
  induction before generalizing prev head with
  | nil =>
      have tail := segment.2.2
      cases after with
      | nil => simp
      | cons first after =>
          obtain ⟨_, _, rest⟩ := tail
          have written := right first List.mem_cons_self
          simp only [List.head?_cons, ↓reduceIte, List.getLast?_nil, Option.none_or] at written
          refine ⟨by simp, by rw [written], ?_⟩
          rw [written]
          refine rest.congr fun member inside => ?_
          have distinct : first ≠ member := fun same => by
            have fresh := (List.nodup_cons.mp (List.nodup_cons.mp nodup).2).1
            exact fresh (same ▸ inside)
          simpa [distinct] using right member (List.mem_cons_of_mem _ inside)
  | cons first before ih =>
      obtain ⟨rfl, back, rest⟩ := segment
      have lastOf (member : Address) (inside : member ∈ before) :
          (first :: before).getLast? = some member ↔ before.getLast? = some member := by
        cases before with
        | nil => exact absurd inside List.not_mem_nil
        | cons => simp
      have inner := ih rest (fun member inside => by
          simpa only [lastOf member inside] using left member (List.mem_cons_of_mem _ inside))
        (fun member inside => by
          have step := right member inside
          cases before with
          | nil => simpa using step
          | cons second before =>
              rw [List.getLast?_cons_cons, List.getLast?_cons] at step
              rw [List.getLast?_cons]
              exact step)
        (List.nodup_cons.mp nodup).2
      have written := left first List.mem_cons_self
      refine ⟨by simp, ?_, ?_⟩
      · rw [written]
        split <;> exact back
      · cases before with
        | nil =>
            simp only [List.getLast?_singleton, ↓reduceIte] at written
            rw [written]
            simpa using inner
        | cons second before =>
            have distinct : (second :: before).getLast? ≠ some first := fun last =>
              (List.nodup_cons.mp nodup).1
                (List.mem_append_left _ (List.mem_of_getLast? last))
            rw [List.getLast?_cons_cons, if_neg distinct] at written
            rw [written]
            simpa using inner

/-- Unlinking an element removes it from its list, wherever in the list it is. -/
theorem Segment.unlink (segment : Segment heap none head (before ++ item :: after)) :
    Segment (unlink heap item) none (if head = some item then (heap item).next else head)
      (before ++ after) := by
  have nodup := segment.nodup
  have next := segment.next_eq
  have back : (heap item).prev = before.getLast? := by simpa using segment.prev_eq
  have selfBack : before.getLast? ≠ some item := fun last =>
    (List.nodup_append.mp nodup).2.2 item (List.mem_of_getLast? last) item
      List.mem_cons_self rfl
  have entry : (if head = some item then (heap item).next else head) =
      if before = [] then after.head? else head := by
    cases before with
    | nil => simp [segment.1, next]
    | cons first before =>
        have distinct : first ≠ item := fun same =>
          (List.nodup_append.mp nodup).2.2 first List.mem_cons_self item List.mem_cons_self same
        simp [segment.1, distinct]
  rw [entry]
  refine segment.bypass (fun member inside => ?_) (fun member inside => ?_)
  · have apart : after.head? ≠ some member := fun first =>
      (List.nodup_append.mp nodup).2.2 member inside member
        (List.mem_cons_of_mem _ (List.mem_of_head? first)) rfl
    simp [IntrusiveList.unlink, setPrev_apply, setNext_apply, back, next, selfBack, apart]
  · have apart : before.getLast? ≠ some member := fun last =>
      (List.nodup_append.mp nodup).2.2 member (List.mem_of_getLast? last) member
        (List.mem_cons_of_mem _ inside) rfl
    simp [IntrusiveList.unlink, setPrev_apply, setNext_apply, back, next, selfBack, apart]

/-- Unlinking only writes the neighbours of the unlinked element. -/
theorem Segment.unlink_apply_of_not_mem {member : Address}
    (segment : Segment heap none head (before ++ item :: after))
    (outside : member ∉ before ++ after) : IntrusiveList.unlink heap item member = heap member := by
  have next := segment.next_eq
  have back : (heap item).prev = before.getLast? := by simpa using segment.prev_eq
  have selfBack : before.getLast? ≠ some item := fun last =>
    (List.nodup_append.mp segment.nodup).2.2 item (List.mem_of_getLast? last) item
      List.mem_cons_self rfl
  have apartBack : before.getLast? ≠ some member := fun last =>
    outside (List.mem_append_left _ (List.mem_of_getLast? last))
  have apartNext : after.head? ≠ some member := fun first =>
    outside (List.mem_append_right _ (List.mem_of_head? first))
  simp [IntrusiveList.unlink, setPrev_apply, setNext_apply, back, next, selfBack, apartBack,
    apartNext]

/-- The heap spells two lists from their first elements, which share no element. -/
structure Pair (heap : Heap Address) (head head' : Option Address) (items items' : List Address) :
    Prop where
  first : Segment heap none head items
  second : Segment heap none head' items'
  nodup : (items ++ items').Nodup

variable {head' : Option Address} {items' : List Address}

omit [DecidableEq Address] in
/-- The two lists of a pair may be exchanged. -/
theorem Pair.symm (pair : Pair heap head head' items items') :
    Pair heap head' head items' items :=
  ⟨pair.second, pair.first, List.nodup_append_comm.mp pair.nodup⟩

omit [DecidableEq Address] in
/-- What is in one list of a pair is not in the other. -/
theorem Pair.disjoint (pair : Pair heap head head' items items') (inside : item ∈ items) :
    item ∉ items' :=
  fun inside' => (List.nodup_append.mp pair.nodup).2.2 item inside item inside' rfl

/-- An element of neither list is pushed in front of the first. -/
theorem Pair.pushFront (pair : Pair heap head head' items items')
    (outside : item ∉ items ++ items') :
    Pair (pushFront heap head item) (some item) head' (item :: items) items' where
  first := pair.first.pushFront fun inside => outside (List.mem_append_left _ inside)
  second := by
    refine pair.second.congr fun member inside => pushFront_apply_of_ne ?_ ?_
    · intro same
      exact outside (List.mem_append_right _ (same ▸ inside))
    · rw [pair.first.head_eq]
      intro isFirst
      exact pair.disjoint (List.mem_of_head? isFirst) inside
  nodup := List.nodup_cons.mpr ⟨outside, pair.nodup⟩

/-- The first element of the first list is popped. -/
theorem Pair.popFront (pair : Pair heap head head' (item :: items) items') :
    Pair (popFront heap item) (heap item).next head' items items' where
  first := pair.first.popFront
  second := by
    refine pair.second.congr fun member inside => popFront_apply_of_ne ?_
    have whole : Segment heap none head ([] ++ item :: items) := pair.first
    rw [whole.next_eq]
    intro isSecond
    exact pair.disjoint (List.mem_cons_of_mem _ (List.mem_of_head? isSecond)) inside
  nodup := (List.nodup_cons.mp pair.nodup).2

/-- An element of the second list is unlinked. -/
theorem Pair.unlink (pair : Pair heap head head' items items') (inside : item ∈ items') :
    Pair (unlink heap item) head (if head' = some item then (heap item).next else head') items
      (items'.erase item) := by
  obtain ⟨before, after, rfl⟩ := List.append_of_mem inside
  have nodup := pair.second.nodup
  have outside : item ∉ before := fun member =>
    (List.nodup_append.mp nodup).2.2 item member item List.mem_cons_self rfl
  rw [List.erase_append_right _ outside, List.erase_cons_head]
  have kept : List.Sublist (before ++ after) (before ++ item :: after) :=
    List.Sublist.append_left (List.sublist_cons_self _ _) _
  refine ⟨?_, pair.second.unlink, pair.nodup.sublist (List.Sublist.append_left kept _)⟩
  refine pair.first.congr fun member inFirst => ?_
  apply pair.second.unlink_apply_of_not_mem
  intro inSecond
  exact pair.disjoint inFirst (kept.subset inSecond)

/-- Unlinking an element of a list does not write the element. -/
theorem Pair.unlink_self (pair : Pair heap head head' items items') (inside : item ∈ items') :
    IntrusiveList.unlink heap item item = heap item := by
  obtain ⟨before, after, rfl⟩ := List.append_of_mem inside
  have nodup := pair.second.nodup
  have outside : item ∉ before := fun member =>
    (List.nodup_append.mp nodup).2.2 item member item List.mem_cons_self rfl
  have behind : item ∉ after := (List.nodup_cons.mp (List.nodup_append.mp nodup).2.1).1
  exact pair.second.unlink_apply_of_not_mem (by simp [outside, behind])

/-- The first element of the first list moves to the front of the second. -/
theorem Pair.take (pair : Pair heap head head' (item :: items) items') :
    Pair (IntrusiveList.pushFront (IntrusiveList.popFront heap item) head' item) (heap item).next
      (some item) items (item :: items') := by
  have outside : item ∉ items' ++ items := by
    intro inside
    exact (List.nodup_cons.mp pair.nodup).1 (List.mem_append.mpr (List.mem_append.mp inside).symm)
  exact (pair.popFront.symm.pushFront outside).symm

/-- An element of the second list moves to the front of the first. -/
theorem Pair.giveBack (pair : Pair heap head head' items items') (inside : item ∈ items') :
    Pair (IntrusiveList.pushFront (IntrusiveList.unlink heap item) head item) (some item)
      (if head' = some item then (IntrusiveList.unlink heap item item).next else head')
      (item :: items) (items'.erase item) := by
  have outside : item ∉ items ++ items'.erase item := by
    have nodup := (List.nodup_append.mp pair.nodup).2.1
    rw [List.mem_append, nodup.mem_erase_iff]
    intro member
    rcases member with inFirst | ⟨different, -⟩
    · exact pair.disjoint inFirst inside
    · exact different rfl
  rw [pair.unlink_self inside]
  exact (pair.unlink inside).pushFront outside

/-- Unlinking an element that no other points at changes nothing. -/
theorem unlink_of_stray (stray : heap item = ⟨none, none⟩) : unlink heap item = heap := by
  simp [unlink, setNext, setPrev, stray]

end Operations

end IntrusiveList
