/-!
# Registries

A registry knows things by name. Registering a name again replaces what it
stood for.

## Main results

* `Registry.find?_register_self`, `Registry.find?_register_ne` — what each
  name stands for after a registration.
-/

namespace Preflight

/-- Things known by name. Of two entries for one name the first counts. -/
structure Registry (α : Type) where
  entries : List (String × α)

namespace Registry

variable {α : Type}

/-- A registry that knows nothing. -/
def empty : Registry α := ⟨[]⟩

/-- What a name stands for. -/
def find? (registry : Registry α) (name : String) : Option α :=
  registry.entries.lookup name

/-- Makes a name stand for a thing. -/
def register (registry : Registry α) (name : String) (thing : α) :
    Registry α :=
  ⟨(name, thing) :: registry.entries⟩

@[simp] theorem find?_register_self (registry : Registry α) (name : String)
    (thing : α) : (registry.register name thing).find? name = some thing := by
  simp [find?, register]

theorem find?_register_ne (registry : Registry α) {name other : String}
    (h : other ≠ name) (thing : α) :
    (registry.register name thing).find? other = registry.find? other := by
  have hBeq : (other == name) = false := by simp [h]
  simp [find?, register, List.lookup_cons, hBeq]

end Registry

end Preflight
