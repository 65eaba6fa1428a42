/-!
# Changes of the Root

When an attribute of the root element is set or removed, everybody who has shown interest
in it is given a change. An interest says which attributes are wanted and whether the value
before the change is.
-/

namespace ThemedPage

/-- A **change** of an attribute of the root. -/
structure Change where
  /-- The attribute, where it is known. -/
  name : Option String
  /-- The value before the change, if there was one and it was wanted. -/
  old : Option String := none
  deriving DecidableEq

/-- Whether a change is one of a given attribute. -/
def Change.isOf (c : Change) (name : String) : Bool := c.name = some name

/-- An **interest** in changes of the root. -/
structure Interest where
  /-- Whether changes of attributes are wanted at all. -/
  attributes : Bool := false
  /-- The attributes that are wanted; all of them if no names are given. -/
  filter : Option (List String) := none
  /-- Whether values before changes are wanted. -/
  oldValue : Bool := false
  deriving DecidableEq

namespace Interest

/-- The interest in every attribute. -/
def all : Interest := { attributes := true }

/-- The interest in one attribute. -/
def only (name : String) : Interest := { attributes := true, filter := some [name] }

/-- The same interest, with values before changes. -/
def withOldValue (i : Interest) : Interest := { i with oldValue := true }

/-- Whether changes of an attribute are wanted. -/
def covers (i : Interest) (name : String) : Bool :=
  i.attributes && i.filter.all (·.contains name)

/-- What somebody of this interest is told about a change of an attribute. -/
def changes (i : Interest) (name : String) (old : Option String) : List Change :=
  if i.covers name then [⟨some name, if i.oldValue then old else none⟩] else []

/-- The interest in one attribute covers that one and no other. -/
@[simp] theorem covers_only (name other : String) :
    (only name).covers other = decide (other = name) := by
  simp [covers, only]

end Interest

end ThemedPage
