import ClientWiring.Environment.Value

/-!
# Environment variables as a layer of configuration

An environment is a list of variables, each name once, in the order in which they were first set.
The variables whose names start with `APP_`, in letters of either case, form a layer: the rest of
the name is a path, whose parts are separated by two underscores or by a point, and counts in small
letters.  Blanks at the ends of the name and of the path do not count, and a name with an empty part
is ignored.
-/

namespace ClientWiring

/-- Environment variables in the order in which they were first set. -/
structure Environment where
  bindings : List (String × String)
deriving DecidableEq, Inhabited

namespace Environment

/-- The value of a variable. -/
def get? (e : Environment) (name : String) : Option String :=
  (e.bindings.find? (·.1 = name)).map (·.2)

/-- Puts a value in the place of the variable, or at the end if there is none. -/
def setIn (name value : String) : List (String × String) → List (String × String)
  | [] => [(name, value)]
  | (n, v) :: rest => if name = n then (n, value) :: rest else (n, v) :: setIn name value rest

/-- Sets a variable. -/
def set (e : Environment) (name value : String) : Environment := ⟨setIn name value e.bindings⟩

/-- Sets a variable that is not set. -/
def setIfNew (e : Environment) (name value : String) : Environment :=
  match e.get? name with
  | some _ => e
  | none => e.set name value

/-- The environment in which variables were set one after the other. -/
def ofList (bindings : List (String × String)) : Environment :=
  bindings.foldl (fun e v => e.set v.1 v.2) ⟨[]⟩

/-- The start of the names that count. -/
def nameStart : List Char := ['a', 'p', 'p', '_']

/-- A point in the place of two underscores. -/
def pointed : List Char → List Char
  | '_' :: '_' :: rest => '.' :: pointed rest
  | c :: rest => c :: pointed rest
  | [] => []

/-- The path that a name stands for. -/
def path? (name : String) : Option (List String) :=
  let cs := Text.trim name.toList
  if (cs.take nameStart.length).map Char.toLower = nameStart then
    let parts := ((Text.trim (pointed (cs.drop nameStart.length))).map Char.toLower).splitOn '.'
    if parts.contains [] then none else some (parts.map String.ofList)
  else none

/-- The tree of one variable. -/
def treeOf? (entry : String × String) : Option Tree :=
  (path? entry.1).map fun path => Tree.nest path (parseValue entry.2)

/-- The layer of an environment; where two variables set the same part, the later one wins. -/
def layer (e : Environment) : Tree := (e.bindings.filterMap treeOf?).foldl Tree.merge (.table [])

end Environment

end ClientWiring
