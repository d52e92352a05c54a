import DiscoveryDemo.CLib.Buffer

/-!
# `slideshow.sh`

The script shows the images of a directory, one after the other, and starts again. One pass of its
outer loop goes over what the shell makes of the pattern `"$IMAGE_DIR"/*`: the paths of the entries
that are not hidden, sorted, or the pattern itself if there are none.
-/

namespace DiscoveryDemo.Slideshow

open CLib

/-- What a name in the directory leads to, symbolic links followed. -/
inductive Kind where
  | regular
  | directory
  /-- A device, a pipe or a socket. -/
  | special
  /-- A link to nothing. -/
  | missing
  deriving DecidableEq

structure Entry where
  name : List Byte
  kind : Kind
  nonempty : name ≠ []
  noSlash : ch '/' ∉ name

/-- The content of the image directory: no two entries have one name. -/
structure Dir where
  entries : List Entry
  nodup : (entries.map Entry.name).Nodup

/-- The order in which the shell sorts paths. -/
structure Collation where
  le : List Byte → List Byte → Bool
  trans : ∀ a b c, le a b = true → le b c = true → le a c = true
  total : ∀ a b, (le a b || le b a) = true

/-- The order of the C locale. -/
def bytewise : Collation where
  le a b := decide (a ≤ b)
  trans a b c hab hbc := decide_eq_true (List.le_trans (of_decide_eq_true hab) (of_decide_eq_true hbc))
  total a b := by simpa using List.le_total a b

/-- `IMAGE_DIR` -/
def imageDir : List Byte := lit "/usr/share/images"

/-- `DELAY` -/
def delay : Nat := 5

/-- The path of a name in the image directory. -/
def path (name : List Byte) : List Byte := imageDir ++ ch '/' :: name

/-- A name that begins with a dot. -/
def isHidden (name : List Byte) : Bool := name.head? = some (ch '.')

/-- `"$IMAGE_DIR"/*` -/
def expand (order : Collation) (dir : Dir) : List (List Byte) :=
  match (dir.entries.map Entry.name).filter fun name => !isHidden name with
  | [] => [path [ch '*']]
  | names => (names.map path).mergeSort order.le

/-- `[ -f "$img" ]` -/
def isFile (dir : Dir) (img : List Byte) : Bool :=
  dir.entries.any fun e => path e.name = img ∧ e.kind = .regular

/-- `*.jpg|*.jpeg|*.png|*.bmp` -/
def isImage (img : List Byte) : Bool :=
  [lit ".jpg", lit ".jpeg", lit ".png", lit ".bmp"].any fun suffix => suffix.isSuffixOf img

/-- What the script does, in order. -/
inductive Event where
  /-- `echo "Displaying image: $img"` -/
  | displaying (img : List Byte)
  /-- `fbv -f "$img"` -/
  | fbv (img : List Byte)
  /-- `echo "Image: $img"` -/
  | image (img : List Byte)
  | sleep (seconds : Nat)
  deriving DecidableEq

/-- The body of the inner loop. -/
def body (useFbv : Bool) (dir : Dir) (img : List Byte) : List Event :=
  if ¬isFile dir img then []
  else if isImage img then
    (if useFbv then [.displaying img, .fbv img] else [.image img]) ++ [.sleep delay]
  else []

/-- A pass of the outer loop. -/
def pass (useFbv : Bool) (order : Collation) (dir : Dir) : List Event :=
  (expand order dir).flatMap (body useFbv dir)

/-- The passes, each with what it finds in the directory. -/
def slideshow (useFbv : Bool) (order : Collation) (dirs : List Dir) : List Event :=
  dirs.flatMap (pass useFbv order)

/-! ## What a pass should do -/

/-- The image that an event presents. -/
def Event.presented : Event → Option (List Byte)
  | fbv img | image img => some img
  | displaying _ | sleep _ => none

/-- The images that are presented, one after the other. -/
def presented (events : List Event) : List (List Byte) := events.filterMap Event.presented

/-- Each image that is presented is followed by a pause. -/
def Paused : List Event → Prop
  | [] => True
  | e :: events => (e.presented ≠ none → events.head? = some (.sleep delay)) ∧ Paused events

/-- A regular file with the suffix of an image. -/
def Entry.IsPicture (e : Entry) : Prop := e.kind = .regular ∧ isImage e.name = true

/-- A pass shows each picture once, in order, with a pause after each, and pauses at least once. -/
structure ShowsAll (useFbv : Bool) (order : Collation) (dir : Dir) : Prop where
  pictures : ∀ img, img ∈ presented (pass useFbv order dir) ↔
    ∃ e ∈ dir.entries, e.IsPicture ∧ path e.name = img
  once : (presented (pass useFbv order dir)).Nodup
  globOrder : (presented (pass useFbv order dir)).Sublist (expand order dir)
  sorted : (presented (pass useFbv order dir)).Pairwise fun a b => order.le a b = true
  paused : Paused (pass useFbv order dir)
  pauses : ∃ seconds, .sleep seconds ∈ pass useFbv order dir

/-- There is a picture, and none is hidden. -/
def Dir.InSight (dir : Dir) : Prop :=
  (∃ e ∈ dir.entries, e.IsPicture) ∧ ∀ e ∈ dir.entries, e.IsPicture → isHidden e.name = false

end DiscoveryDemo.Slideshow
