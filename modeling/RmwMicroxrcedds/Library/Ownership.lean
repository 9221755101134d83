import Mathlib.Logic.Function.Basic

/-! # Owned blocks

Variables point to blocks of memory, and each block there is belongs to exactly one of them.
What a variable owns is then as good as a value of its own: allocating a block for a variable,
writing to its block and releasing it change what that variable holds, and nothing else.
-/

namespace Ownership

variable {Var Address Block : Type*}
variable {pointer : Var → Option Address} {blocks : Address → Option Block}
variable {owner : Var} {address : Address} {block : Block}

/-- What each variable points to, if anything. -/
def content (pointer : Var → Option Address) (blocks : Address → Option Block) (var : Var) :
    Option Block :=
  (pointer var).bind blocks

/-- Every pointer points to a block, no two to the same one, and no block is without one. -/
structure Owns (pointer : Var → Option Address) (blocks : Address → Option Block) : Prop where
  live : ∀ var address, pointer var = some address → (blocks address).isSome = true
  alone : ∀ var other address, pointer var = some address → pointer other = some address →
    var = other
  owned : ∀ address, (blocks address).isSome = true → ∃ var, pointer var = some address

/-- Nothing is owned where there are no blocks. -/
theorem owns_none : Owns (fun _ : Var => (none : Option Address))
    fun _ => (none : Option Block) where
  live := fun _ _ absurd => by cases absurd
  alone := fun _ _ _ absurd => by cases absurd
  owned := fun _ absurd => by cases absurd

/-- Behind a null pointer there is nothing. -/
theorem content_of_null (null : pointer owner = none) : content pointer blocks owner = none := by
  rw [content, null]
  rfl

/-- Behind a pointer is the block it points to. -/
theorem content_of_pointer (isAddress : pointer owner = some address) :
    content pointer blocks owner = blocks address := by
  rw [content, isAddress]
  rfl

/-- A variable that owns nothing goes on to hold nothing. -/
theorem update_content_of_null [DecidableEq Var] (null : pointer owner = none) :
    Function.update (content pointer blocks) owner none = content pointer blocks := by
  have nothing : content pointer blocks owner = none := content_of_null null
  rw [← nothing, Function.update_eq_self]

namespace Owns

/-- What is free is pointed to by nothing. -/
theorem ne_of_free (owns : Owns pointer blocks) (free : blocks address = none) (var : Var) :
    pointer var ≠ some address := by
  intro isAddress
  have live := owns.live var address isAddress
  rw [free] at live
  cases live

/-- Where no variable owns anything, there are no blocks. -/
theorem blocks_eq_none (owns : Owns pointer blocks) (null : ∀ var, pointer var = none)
    (address : Address) : blocks address = none := by
  cases isBlock : blocks address with
  | none => rfl
  | some block =>
      obtain ⟨var, isAddress⟩ := owns.owned address (by rw [isBlock]; rfl)
      rw [null var] at isAddress
      cases isAddress

variable [DecidableEq Var] [DecidableEq Address]

/-- A variable that owns nothing is given a new block. -/
theorem allocate (owns : Owns pointer blocks) (null : pointer owner = none)
    (free : blocks address = none) :
    Owns (Function.update pointer owner (some address))
      (Function.update blocks address (some block)) where
  live := fun var other isOther => by
    by_cases isAddress : other = address
    · rw [isAddress, Function.update_self]
      rfl
    · rw [Function.update_of_ne isAddress]
      refine owns.live var other ?_
      by_cases isOwner : var = owner
      · rw [isOwner, Function.update_self] at isOther
        exact (isAddress (Option.some.inj isOther).symm).elim
      · rwa [Function.update_of_ne isOwner] at isOther
  alone := fun var other shared isVar isOther => by
    by_cases varOwner : var = owner <;> by_cases otherOwner : other = owner
    · rw [varOwner, otherOwner]
    · rw [varOwner, Function.update_self] at isVar
      rw [Function.update_of_ne otherOwner, ← isVar] at isOther
      exact (owns.ne_of_free free other isOther).elim
    · rw [otherOwner, Function.update_self] at isOther
      rw [Function.update_of_ne varOwner, ← isOther] at isVar
      exact (owns.ne_of_free free var isVar).elim
    · rw [Function.update_of_ne varOwner] at isVar
      rw [Function.update_of_ne otherOwner] at isOther
      exact owns.alone var other shared isVar isOther
  owned := fun other isLive => by
    by_cases isAddress : other = address
    · exact ⟨owner, by rw [Function.update_self, isAddress]⟩
    · rw [Function.update_of_ne isAddress] at isLive
      obtain ⟨var, isOther⟩ := owns.owned other isLive
      refine ⟨var, ?_⟩
      rw [Function.update_of_ne, isOther]
      rintro rfl
      rw [null] at isOther
      cases isOther

/-- The variable a block is allocated for holds it, and the others what they did. -/
theorem content_allocate (owns : Owns pointer blocks) (free : blocks address = none) :
    content (Function.update pointer owner (some address))
      (Function.update blocks address (some block)) =
      Function.update (content pointer blocks) owner (some block) := by
  funext var
  by_cases isOwner : var = owner
  · rw [isOwner, Function.update_self, content_of_pointer (Function.update_self ..),
      Function.update_self]
  · rw [Function.update_of_ne isOwner, content, content, Function.update_of_ne isOwner]
    cases isOther : pointer var with
    | none => rfl
    | some other =>
        have different : other ≠ address := by
          rintro rfl
          exact owns.ne_of_free free var isOther
        exact Function.update_of_ne different _ _

omit [DecidableEq Var] in
/-- Writing to a block leaves every pointer where it points. -/
theorem write (owns : Owns pointer blocks) (isOwner : pointer owner = some address) :
    Owns pointer (Function.update blocks address (some block)) where
  live := fun var other isOther => by
    by_cases isAddress : other = address
    · rw [isAddress, Function.update_self]
      rfl
    · rw [Function.update_of_ne isAddress]
      exact owns.live var other isOther
  alone := owns.alone
  owned := fun other isLive => by
    by_cases isAddress : other = address
    · exact ⟨owner, isAddress ▸ isOwner⟩
    · rw [Function.update_of_ne isAddress] at isLive
      exact owns.owned other isLive

/-- Writing to the block of a variable changes what it holds, and nothing else. -/
theorem content_write (owns : Owns pointer blocks) (isOwner : pointer owner = some address) :
    content pointer (Function.update blocks address (some block)) =
      Function.update (content pointer blocks) owner (some block) := by
  funext var
  by_cases same : var = owner
  · rw [same, Function.update_self, content_of_pointer isOwner, Function.update_self]
  · rw [Function.update_of_ne same, content, content]
    cases isOther : pointer var with
    | none => rfl
    | some other =>
        have different : other ≠ address := by
          rintro rfl
          exact same (owns.alone var owner other isOther isOwner)
        exact Function.update_of_ne different _ _

/-- The block of a variable is released. -/
theorem release (owns : Owns pointer blocks) (isOwner : pointer owner = some address) :
    Owns (Function.update pointer owner none) (Function.update blocks address none) where
  live := fun var other isOther => by
    by_cases same : var = owner
    · rw [same, Function.update_self] at isOther
      cases isOther
    · rw [Function.update_of_ne same] at isOther
      rw [Function.update_of_ne]
      · exact owns.live var other isOther
      · rintro rfl
        exact same (owns.alone var owner other isOther isOwner)
  alone := fun var other shared isVar isOther => by
    by_cases varOwner : var = owner
    · rw [varOwner, Function.update_self] at isVar
      cases isVar
    · by_cases otherOwner : other = owner
      · rw [otherOwner, Function.update_self] at isOther
        cases isOther
      · rw [Function.update_of_ne varOwner] at isVar
        rw [Function.update_of_ne otherOwner] at isOther
        exact owns.alone var other shared isVar isOther
  owned := fun other isLive => by
    by_cases isAddress : other = address
    · rw [isAddress, Function.update_self] at isLive
      cases isLive
    · rw [Function.update_of_ne isAddress] at isLive
      obtain ⟨var, isOther⟩ := owns.owned other isLive
      refine ⟨var, ?_⟩
      rw [Function.update_of_ne, isOther]
      rintro rfl
      exact isAddress (Option.some.inj (isOther.symm.trans isOwner))

/-- The variable whose block is released holds nothing, and the others what they did. -/
theorem content_release (owns : Owns pointer blocks) (isOwner : pointer owner = some address) :
    content (Function.update pointer owner none) (Function.update blocks address none) =
      Function.update (content pointer blocks) owner none := by
  funext var
  by_cases same : var = owner
  · rw [same, Function.update_self, content_of_null (Function.update_self ..)]
  · rw [Function.update_of_ne same, content, content, Function.update_of_ne same]
    cases isOther : pointer var with
    | none => rfl
    | some other =>
        have different : other ≠ address := by
          rintro rfl
          exact same (owns.alone var owner other isOther isOwner)
        exact Function.update_of_ne different _ _

end Owns

end Ownership
