import UpnpBinding.Record
import UpnpBinding.Text.Alnum
import UpnpBinding.Text.Lower
/-!
Snake case. A CamelCase name is cut before each capital that starts a lower-case run, then
between a lower-case letter or digit and a following capital; runs of characters that are not
letters or digits become one underscore, the result is lowered, and a reserved word gets a
trailing underscore: `GetVolumeDB` becomes `get_volume_db`.
-/
namespace UpnpBinding.Name

def isAsciiUpper (c : Char) : Bool := 'A' ≤ c && c ≤ 'Z'

def isAsciiLower (c : Char) : Bool := 'a' ≤ c && c ≤ 'z'

/-- Puts an underscore between a character (not a line feed) and a capital that starts a run
of small letters, scanning left to right past each such word. -/
def cutBeforeWords : List Char → List Char
  | c :: u :: l :: more =>
    if c != '\n' && isAsciiUpper u && isAsciiLower l then
      let run := more.takeWhile isAsciiLower
      c :: '_' :: u :: l :: run ++ cutBeforeWords (more.drop run.length)
    else c :: cutBeforeWords (u :: l :: more)
  | cs => cs
termination_by cs => cs.length
decreasing_by all_goals (simp only [List.length_drop, List.length_cons]; omega)

def cutBeforeCapitals : List Char → List Char
  | a :: b :: rest =>
    if (isAsciiLower a || a.isDigit) && isAsciiUpper b then a :: '_' :: b :: cutBeforeCapitals rest
    else a :: cutBeforeCapitals (b :: rest)
  | cs => cs

def squeezeSeparators : List Char → List Char
  | [] => []
  | c :: rest =>
    if Text.isAlnum c then c :: squeezeSeparators rest
    else '_' :: squeezeSeparators (rest.drop (rest.takeWhile (fun d => !Text.isAlnum d)).length)
termination_by cs => cs.length
decreasing_by all_goals (simp only [List.length_drop, List.length_cons]; omega)

def snakeCase (name : String) : String :=
  let cs := squeezeSeparators (cutBeforeCapitals (cutBeforeWords name.toList))
  let lowered := Text.lower (String.ofList cs)
  if isReserved lowered then lowered ++ "_" else lowered

end UpnpBinding.Name
