import HttpGateway.Provider.ProviderClass

namespace HttpGateway

namespace Method

def texts? (xs : List Value) : Option (List String) :=
  xs.mapM fun
    | .text s => some s
    | _ => none

def offered (names : List (Option String)) (formals : List (String × ParamType))
    (build : Outlet → List Value → Option (Except Failure Product)) : Member :=
  .method
    { formals := formals.map fun f => ⟨f.1, .written f.2, false, .ordinary⟩
      markers := names.map fun name => ⟨name.elim .null .text, {}⟩
      closes := false
      build := fun outlet args => Compile.lift
        ((build outlet (args.map Prod.snd)).getD (.error (.misused "arguments of other types"))) }

end Method

end HttpGateway
