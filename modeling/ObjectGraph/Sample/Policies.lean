import ObjectGraph.Adapter

/-!
Sample policies to put into a context: an adapter that answers with the segment it is asked for, an
adapter factory that promises what it does not have, two namers and two object factories.
-/

set_option autoImplicit false
namespace ObjectGraph.Sample

def echoText (s : Segment) : String :=
  s.name ++ "/" ++ s.key?.getD "-"

/-- An adapter whose reads answer with the segment; it lends only the object itself and refuses
writes. -/
def echo : CustomAdapter where
  read o s :=
    if s.name = "none" then .ok none
    else if s.name = "self" then .ok (some (.shared o))
    else if s.name = "fail" then .error (.keyAbsent s.text o.typeName (s.key?.getD "-"))
    else .ok (some (.detached (.str (echoText s))))
  borrow s := return if s.name = "self" then some [] else none
  write _ _ := do throw (.unsupportedBy (← get) "echo writes")
  getterNames _ := ["z", "a"]
  setterNames _ := []
  getterType? _ name := if name = "none" then none else some .str
  setterType? _ _ := none
  hasGetter _ name := name != "none"
  hasSetter _ _ := false
  instantiate s := do
    if s.isIndexed then return []
    else throw (.unsupportedBy (← get) "echo instantiation")

def liar : AdapterFactory where
  supports _ := true
  adapterFor := AdapterFactory.none.adapterFor

/-- A namer for which no method is an accessor, and which hides the property `name`. -/
def fieldsOnly : PropertyNamer where
  isGetter _ := false
  isSetter _ := false
  property? _ := none
  requiresBool _ := false
  isValid name := name != "name"

def afterStart? (start text : String) : Option String :=
  if start.toList.isPrefixOf text.toList then
    some (String.ofList (text.toList.drop start.toList.length))
  else none

/-- A namer that calls a property after its getter and takes setters that start with `with_`. -/
def fluent : PropertyNamer where
  isGetter method := method != "fetch_not"
  isSetter _ := true
  property? method :=
    match afterStart? "with_" method with
    | some rest => some rest
    | none => if (afterStart? "set" method).isSome then none else some method
  requiresBool method := "_url".toList.isSuffixOf method.toList
  isValid := Naming.isValidProperty

def refusing : ObjectFactory where
  create t _ _ := .error (.unsupported t.name "instantiation")
  isCollection _ := false

def stringy : ObjectFactory where
  create _ _ _ := .ok (.str "made")
  isCollection _ := true

end ObjectGraph.Sample
