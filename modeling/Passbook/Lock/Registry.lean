/-!
Registries: a value for each of finitely many accounts. Main statements: an entry that is put is found
(`get?_put_self`), an erased one is not (`get?_erase_self`), and the other entries stay
(`get?_put_other`, `get?_erase_other`).
-/

set_option autoImplicit false
set_option relaxedAutoImplicit false

namespace Passbook

/-- A value for each of finitely many accounts. -/
structure Registry (Entry : Type) where
  entries : List (Int × Entry) := []
deriving DecidableEq, Repr

namespace Registry

variable {Entry : Type}

/-- The entry of an account. -/
def get? (registry : Registry Entry) (account : Int) : Option Entry :=
  (registry.entries.find? (·.1 == account)).map (·.2)

/-- The registry without the entry of an account. -/
def erase (registry : Registry Entry) (account : Int) : Registry Entry :=
  ⟨registry.entries.filter (·.1 != account)⟩

/-- The registry with one entry for an account. -/
def put (registry : Registry Entry) (account : Int) (entry : Entry) : Registry Entry :=
  ⟨(account, entry) :: (registry.erase account).entries⟩

/-- The number of entries. -/
def size (registry : Registry Entry) : Nat := registry.entries.length

theorem get?_erase_self (registry : Registry Entry) (account : Int) :
    (registry.erase account).get? account = none := by
  simp [get?, erase]

theorem get?_erase_other (registry : Registry Entry) {account other : Int} (differ : other ≠ account) :
    (registry.erase account).get? other = registry.get? other := by
  obtain ⟨entries⟩ := registry
  unfold get? erase
  congr 1
  induction entries with
  | nil => rfl
  | cons first rest ih =>
    by_cases erased : first.1 = account
    · have apart : first.1 ≠ other := fun same ↦ differ (same.symm.trans erased)
      simp_all
    · by_cases found : first.1 = other <;> simp_all

theorem get?_put_self (registry : Registry Entry) (account : Int) (entry : Entry) :
    (registry.put account entry).get? account = some entry := by
  simp [get?, put]

theorem get?_put_other (registry : Registry Entry) {account other : Int} (entry : Entry)
    (differ : other ≠ account) :
    (registry.put account entry).get? other = registry.get? other := by
  have apart : ¬account = other := fun same ↦ differ same.symm
  rw [← get?_erase_other registry differ]
  simp [get?, put, apart]

end Registry

end Passbook
