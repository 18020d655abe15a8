import HttpGateway.Provider.ProviderClass

namespace HttpGateway

abbrev Registry := OrderedMap ProviderClass

namespace Registry

/-- Registers a class under a name, which takes the place of any class that has it, or under its
code, unless another class has that. -/
def register (g : Registry) (c : ProviderClass) (name : Option String) : Except Failure Registry :=
  if !c.isProvider then .error .notAProviderClass
  else if c.code = "" then .error (.noCode c.name)
  else if !Failure.families.contains c.family then .error (.unknownFamily c.name c.family)
  else
    match name with
    | some name => .ok (g.insert (if name = "" then c.code else name) c)
    | none =>
      if (g.get? c.code).any (·.serial != c.serial) then .error (.codeTaken c.code)
      else .ok (g.insert c.code c)

def available (g : Registry) (family : Option String) : Registry :=
  g.filter fun _ c => family.all (· == c.family)

def providers (g : Registry) (overrides : OrderedMap Provider) : List Provider :=
  g.entries.map fun e => (overrides.get? e.1).getD ⟨e.2, .empty⟩

end Registry

end HttpGateway
