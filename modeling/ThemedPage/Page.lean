import ThemedPage.Dict
import ThemedPage.Text.Quoted

/-!
# Pages

A page is a root element and images in document order, each with its attributes. Those who
react to changes of the root may write attributes of images and nothing else; such a write
is a value of its own, an `ImageWrite`, so that what somebody does to a page can be counted
and logged before it is done.

## Main results

* `Page.root_writeAll`, `Page.length_images_writeAll` — writes leave the root and the number
  of images alone;
* `Page.images_writeAll_updates` — writing a value wherever one is wanted is one pass over
  the images.
-/

namespace ThemedPage

/-- The **attributes** of an element. -/
abbrev Attributes := Dict String

/-- A **page**. -/
structure Page where
  /-- The attributes of the root element. -/
  root : Attributes := Dict.empty
  /-- The attributes of the images, in document order. -/
  images : List Attributes := []
  deriving DecidableEq

/-- A **write** of an attribute of the image at a position. -/
structure ImageWrite where
  /-- The position of the image in document order. -/
  image : Nat
  /-- The attribute. -/
  name : String
  /-- Its new value. -/
  value : String
  deriving DecidableEq

namespace Page

/-- The page without attributes and images. -/
def empty : Page := {}

instance : Inhabited Page := ⟨empty⟩

/-- The value of an attribute of the image at a position. -/
def imageAttribute? (p : Page) (image : Nat) (name : String) : Option String :=
  p.images[image]?.bind (·.get? name)

/-- The position of the first image with an identifier. -/
def findImage? (p : Page) (id : String) : Option Nat :=
  p.images.findIdx? fun attributes => attributes.get? "id" = some id

/-- Adds an image behind the others. -/
def addImage (p : Page) (attributes : Attributes) : Page :=
  { p with images := p.images ++ [attributes] }

/-- Carries out a write; one to a position without an image does nothing. -/
def write (p : Page) (w : ImageWrite) : Page :=
  { p with images := p.images.modify w.image (·.insert w.name w.value) }

/-- Carries out writes one after the other. -/
def writeAll (p : Page) (ws : List ImageWrite) : Page := ws.foldl write p

/-- The writes that give an attribute a value on every image for which one is wanted, with
positions counted from a number. -/
def updates (name : String) (wanted : Attributes → Option String) :
    Nat → List Attributes → List ImageWrite
  | _, [] => []
  | i, attributes :: rest =>
    match wanted attributes with
    | some value => ⟨i, name, value⟩ :: updates name wanted (i + 1) rest
    | none => updates name wanted (i + 1) rest

/-! ### What writes change -/

@[simp] theorem writeAll_nil (p : Page) : p.writeAll [] = p := rfl

@[simp] theorem writeAll_cons (p : Page) (w : ImageWrite) (ws : List ImageWrite) :
    p.writeAll (w :: ws) = (p.write w).writeAll ws := rfl

/-- One list of writes behind another is carried out after it. -/
theorem writeAll_append (p : Page) (ws vs : List ImageWrite) :
    p.writeAll (ws ++ vs) = (p.writeAll ws).writeAll vs := by
  simp [writeAll]

@[simp] theorem root_write (p : Page) (w : ImageWrite) : (p.write w).root = p.root := rfl

@[simp] theorem length_images_write (p : Page) (w : ImageWrite) :
    (p.write w).images.length = p.images.length := by
  simp [write]

/-- Writes leave the root alone. -/
@[simp] theorem root_writeAll (p : Page) (ws : List ImageWrite) :
    (p.writeAll ws).root = p.root := by
  induction ws generalizing p with
  | nil => rfl
  | cons w ws ih => simp [ih]

/-- Writes add and remove no images. -/
@[simp] theorem length_images_writeAll (p : Page) (ws : List ImageWrite) :
    (p.writeAll ws).images.length = p.images.length := by
  induction ws generalizing p with
  | nil => rfl
  | cons w ws ih => simp [ih]

/-- An image's attributes after a wanted value is written to them. -/
def update (name : String) (wanted : Attributes → Option String) (attributes : Attributes) :
    Attributes :=
  match wanted attributes with
  | some value => attributes.insert name value
  | none => attributes

/-- To modify a list at the length of its beginning is to modify what comes next. -/
theorem modify_append_cons {α : Type} (f : α → α) (done rest : List α) (a : α) :
    (done ++ a :: rest).modify done.length f = done ++ f a :: rest := by
  induction done with
  | nil => rfl
  | cons b done ih => simp [ih]

/-- A write to the position behind some images goes to the next image. -/
theorem write_append_cons (root : Attributes) (done rest : List Attributes) (a : Attributes)
    (name value : String) :
    (Page.mk root (done ++ a :: rest)).write ⟨done.length, name, value⟩ =
      ⟨root, done ++ a.insert name value :: rest⟩ := by
  simp [write, modify_append_cons]

/-- Updates counted from the position behind some images update the rest and leave
those alone; the statement is general in that number to go through by induction on the
rest. -/
theorem writeAll_updates (root : Attributes) (name : String)
    (wanted : Attributes → Option String) (done rest : List Attributes) :
    (Page.mk root (done ++ rest)).writeAll (updates name wanted done.length rest) =
      ⟨root, done ++ rest.map (update name wanted)⟩ := by
  induction rest generalizing done with
  | nil => simp [updates]
  | cons a rest ih =>
    have step (b : Attributes) := ih (done ++ [b])
    simp only [List.length_append, List.length_cons, List.length_nil, List.append_assoc,
      List.cons_append, List.nil_append] at step
    unfold updates
    cases h : wanted a with
    | none => simpa [update, h] using step a
    | some v => simpa [update, h, write_append_cons] using step (a.insert name v)

/-- Writing a value wherever one is wanted is one pass over the images. -/
theorem images_writeAll_updates (p : Page) (name : String)
    (wanted : Attributes → Option String) :
    (p.writeAll (updates name wanted 0 p.images)).images =
      p.images.map (update name wanted) := by
  have := writeAll_updates p.root name wanted [] p.images
  simp only [List.nil_append, List.length_nil] at this
  exact congrArg Page.images this

/-! ### Dumps -/

/-- The text of an element's attributes in a dump. -/
def attributesText (a : Attributes) : String :=
  "\x7b" ++ ", ".intercalate (a.entries.map fun (name, value) =>
    Text.quote name ++ ": " ++ Text.quote value) ++ "\x7d"

end Page

end ThemedPage
