import ModuleHost.Text.Quoted

/-!
# The demo module's two texts

`route` splits a URI at its first two slashes: what stands before the first is
dropped, what stands between them is the target address, and the rest, with a
slash in front, is the URI to forward. `describe` is the diagnostic line of one
request, four quoted fields in a row.
-/
namespace ModuleHost.Demo

open Text

/-- The target address and the URI to forward, none where no address is named. -/
def route (uri : String) : Option (String × String) :=
  match uri.toList.dropWhile (· != '/') with
  | [] => none
  | _ :: rest =>
    let address := rest.takeWhile (· != '/')
    if address.isEmpty then none
    else some (String.ofList address, String.ofList ('/' :: (rest.dropWhile (· != '/')).drop 1))

def describe (method uri userAgent body : String) : String :=
  "Method: " ++ quote method ++ ", Uri: " ++ quote uri ++ ", User-Agent: " ++ quote userAgent
    ++ ", Body: " ++ quote body

end ModuleHost.Demo
