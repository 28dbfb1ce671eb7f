import Mathlib.Data.List.Basic

namespace Controller

-- The characters up to the zero that ends the string.
abbrev CString := List Char

abbrev kDefault : CString :=
  ['D', 'e', 'f', 'a', 'u', 'l', 't']

-- The objects of a property list. Those that are neither dictionaries nor strings are not looked at.
inductive OSObject
  | dictionary (entries : List (CString × OSObject))
  | string (s : CString)
  | other

abbrev OSDictionary := List (CString × OSObject)

namespace OSDictionary

def getObject (d : OSDictionary) (key : CString) : Option OSObject :=
  d.lookup key

-- The entries of the other dictionary take the place of those that have the same keys.
def merge (d other : OSDictionary) : OSDictionary :=
  other ++ d

end OSDictionary

def OSObject.dictionary? : OSObject → Option OSDictionary
  | dictionary d => some d
  | _            => none

-- The character ends the string that is left if it is the terminating zero.
def CString.setNul (s : CString) (index : Nat) : CString :=
  s.take index

-- The key that is named by a string object: the text before the first semicolon.
def linkTarget (link : CString) : CString :=
  let p := link.findIdx (· = ';')
  if link[p]? ≠ some ';' then
    link
  else
    CString.setNul link p

-- The function `_getConfigurationNode`, which calls itself for an alias. There is no result if the calls
-- are nested deeper than the fuel allows.
def OSDictionary.getConfigurationNode (root : OSDictionary) : Nat → CString → Option (Option OSDictionary)
  | 0, _           => none
  | fuel + 1, name =>
    match root.getObject name with
    | some (.dictionary configuration) => some (some configuration)
    | some (.string link)              => root.getConfigurationNode fuel (linkTarget link)
    | _                                => some none

-- The same for pointers, which may be null.
def getConfigurationNode? (fuel : Nat) (root : Option OSDictionary) (name : Option CString) :
    Option (Option OSDictionary) :=
  match root, name with
  | some root, some name => root.getConfigurationNode fuel name
  | _, _                 => some none

-- The first of the lookups that finds something. The others are not made.
def firstNode : List (Option (Option OSDictionary)) → Option (Option OSDictionary)
  | []             => some none
  | lookup :: rest =>
    match lookup with
    | some none => firstNode rest
    | found     => found

-- The names of the platform are those that the firmware has.
structure Platform where
  manufacturer : Option CString
  product      : Option CString

-- The lookups of `getConfigurationNode`, in order.
def configurationLookups (p : Platform) (list : OSDictionary) (model : Option CString) :
    List (OSDictionary × Option CString) :=
  let manufacturerNode := (p.manufacturer.bind list.getObject).bind OSObject.dictionary?
  (manufacturerNode.toList.flatMap fun node => [(node, p.product), (node, model), (node, some kDefault)]) ++
    [(list, model), (list, some kDefault)]

def getConfigurationNode (fuel : Nat) (p : Platform) (list : OSDictionary) (model : Option CString) :
    Option (Option OSDictionary) :=
  firstNode <| (configurationLookups p list model).map fun l => getConfigurationNode? fuel (some l.1) l.2

-- The platform node is merged into the default node, or used alone if there is none.
def mergeNodes : Option OSDictionary → Option OSDictionary → Option OSDictionary
  | some result, some platformNode => some (result.merge platformNode)
  | some result, none              => some result
  | none, platformNode             => platformNode

def makeConfigurationNode (fuel : Nat) (p : Platform) (list : Option OSDictionary) (model : Option CString) :
    Option (Option OSDictionary) :=
  match list with
  | none      => some none
  | some list => do
    let defaultNode ← getConfigurationNode? fuel (some list) (some kDefault)
    let platformNode ← getConfigurationNode fuel p list model
    return mergeNodes defaultNode platformNode

end Controller
