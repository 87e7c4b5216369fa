import TextQuery.Files.Path

/-!
# File trees

A file tree is a plain value: what lies at each location. A directory is there when it is listed or
when something lies below it. A path is followed name by name, and each name leads on only from a
directory.

Not every failure lies in the tree. A file may keep its text to itself, and a `Device` says what a
disk and the reader of the output let through, so that a write can also fail after the file was
made.
-/

namespace TextQuery

/-- What a file holds: text, or bytes that are no text. -/
inductive Content where
  | text (s : String)
  | binary (bytes : List UInt8)
  deriving DecidableEq, Repr

/-- Why a file cannot be read or written. -/
inductive FileError where
  | notFound
  | notADirectory
  | isADirectory
  | notText
  /-- Any other error of the system, by its number: a missing permission, a fault of the disk. -/
  | system (number : Nat) (description : String)
  deriving DecidableEq, Repr

/-- The error in words. -/
def FileError.message : FileError → String
  | .notFound => "No such file or directory (os error 2)"
  | .notADirectory => "Not a directory (os error 20)"
  | .isADirectory => "Is a directory (os error 21)"
  | .notText => "stream did not contain valid UTF-8"
  | .system number description => description ++ " (os error " ++ toString number ++ ")"

/-- What lies at a location. -/
inductive Entry where
  /-- What a file holds, and what keeps it from being read, if anything does. -/
  | file (content : Content) (fault : Option FileError := none)
  | directory
  deriving DecidableEq, Repr

/-- The text of an entry, if it can be read. -/
def Entry.read : Entry → Except FileError String
  | .file _ (some e) => .error e
  | .file (.text s) none => .ok s
  | .file (.binary _) none => .error .notText
  | .directory => .error .isADirectory

/-! ## Devices -/

/-- What takes only so many characters, and why it takes no more. -/
structure Limit where
  room : Nat
  cause : FileError
  deriving DecidableEq, Repr

namespace Limit

/-- What of a text is taken. Without a limit it is all of it. -/
def taken (limit : Option Limit) (text : String) : String :=
  match limit with
  | none => text
  | some l => String.ofList (text.toList.take l.room)

/-- Why a text is not taken whole, if it is not. -/
def failure? (limit : Option Limit) (text : String) : Option FileError :=
  match limit with
  | none => none
  | some l => if text.length ≤ l.room then none else some l.cause

end Limit

/-- What the system around a run lets through. On the sound one, all of it. -/
structure Device where
  /-- Why no file can be opened for writing, if so. -/
  opening : Option FileError := none
  /-- How much a file takes once it is open. -/
  disk : Option Limit := none
  /-- How much can be printed. -/
  output : Option Limit := none
  /-- Why no message about a problem can be printed, if so. -/
  messages : Option FileError := none
  deriving DecidableEq, Repr

/-! ## Trees -/

/-- Whether `inner` lies strictly below `outer`. -/
def Location.isBelow (inner outer : Location) : Bool :=
  inner.absolute == outer.absolute && outer.names.isPrefixOf inner.names &&
    outer.names.length < inner.names.length

/-- What lies at each location; the first entry for a location counts. -/
structure FileTree where
  entries : List (Location × Entry) := []
  deriving DecidableEq, Repr

namespace FileTree

/-- What is listed at a location. -/
def get? (t : FileTree) (l : Location) : Option Entry := t.entries.lookup l

/-- What lies at a location, directories that are only implied included. -/
def entryAt? (t : FileTree) (l : Location) : Option Entry :=
  match t.get? l with
  | some e => some e
  | none => if l.isStart || t.entries.any fun e => e.1.isBelow l then some .directory else none

/-- Whether a location is a directory. -/
def isDirectory (t : FileTree) (l : Location) : Bool := t.entryAt? l == some .directory

/-- Where names lead from a place. Each of them is looked up in the place before it, which has to be
a directory. -/
def follow (t : FileTree) : Location → List String → Except FileError Location
  | here, [] => .ok here
  | here, name :: names =>
    match t.entryAt? here with
    | some .directory => t.follow (here.enter name) names
    | some (.file ..) => .error .notADirectory
    | none => .error .notFound

/-- Where a path leads, whether or not something lies there. -/
def place (t : FileTree) (p : Path) : Except FileError Location :=
  t.follow ⟨p.absolute, []⟩ p.location.names

/-- What a path leads to. -/
def resolve (t : FileTree) (p : Path) : Except FileError Entry :=
  match t.place p with
  | .error e => .error e
  | .ok l =>
    match t.entryAt? l with
    | some .directory => .ok .directory
    | some (.file c fault) => if p.endsInside then .error .notADirectory else .ok (.file c fault)
    | none => .error .notFound

/-- Whether a path leads to a file. -/
def isFile (t : FileTree) (p : Path) : Bool :=
  match t.resolve p with
  | .ok (.file ..) => true
  | _ => false

/-- Whether a path leads to anything. -/
def exists? (t : FileTree) (p : Path) : Bool := (t.resolve p).isOk

/-- The text of a file. -/
def read (t : FileTree) (p : Path) : Except FileError String :=
  match t.resolve p with
  | .ok e => e.read
  | .error e => .error e

/-- Lists an entry at a location in place of what was listed there. -/
def set (t : FileTree) (l : Location) (e : Entry) : FileTree :=
  if (t.get? l).isSome then
    ⟨t.entries.map fun old => if old.1 == l then (l, e) else old⟩
  else ⟨t.entries ++ [(l, e)]⟩

/-- Replacing what is listed at a location leaves the other locations alone. -/
theorem lookup_replace (l l' : Location) (e : Entry) (entries : List (Location × Entry)) :
    (entries.map fun old => if old.1 == l then (l, e) else old).lookup l' =
      if l' = l then (entries.lookup l).map fun _ => e else entries.lookup l' := by
  induction entries with
  | nil => simp
  | cons old rest ih =>
    obtain ⟨key, value⟩ := old
    by_cases hkey : key = l
    · subst hkey
      by_cases hl : l' = key
      · subst hl
        simp
      · have hne : (l' == key) = false := by simpa using hl
        simp only [List.map_cons, beq_self_eq_true, if_true, List.lookup_cons, hne, ih, hl, if_false]
    · have hne : (key == l) = false := by simpa using hkey
      have hne' : (l == key) = false := by simpa using fun h => hkey h.symm
      rw [List.map_cons, if_neg (by simpa using hkey), List.lookup_cons, ih, List.lookup_cons,
        List.lookup_cons, hne']
      by_cases hl : l' = l
      · subst hl
        simp [hne']
      · simp [hl]

/-- Listing an entry is seen at its location and nowhere else. -/
@[simp] theorem get?_set (t : FileTree) (l l' : Location) (e : Entry) :
    (t.set l e).get? l' = if l' = l then some e else t.get? l' := by
  unfold set
  cases hold : t.get? l with
  | some old =>
    rw [if_pos (by simp), get?, lookup_replace]
    rw [get?] at hold
    simp [hold, get?]
  | none =>
    rw [if_neg (by simp)]
    rw [get?] at hold
    by_cases hl : l' = l
    · subst hl
      rw [get?, List.lookup_append, hold]
      simp
    · have hne : (l' == l) = false := by simpa using hl
      rw [get?, List.lookup_append, if_neg hl, get?]
      simp [List.lookup_cons, hne]

/-- Where the file at a path would be opened for writing, and what keeps the file there from being
read. -/
def target (t : FileTree) (p : Path) : Except FileError (Location × Option FileError) :=
  match t.place p with
  | .error e => .error e
  | .ok l =>
    match t.entryAt? l with
    | some .directory => .error .isADirectory
    | some (.file _ fault) => if p.endsInside then .error .notADirectory else .ok (l, fault)
    | none => if p.endsInside then .error .isADirectory else .ok (l, none)

/-- Writes a text to a file, making the file if its directory is there: the tree afterwards, and
what went wrong. A file that is opened is made or emptied first, and stays so if the disk gives
out. -/
def write (t : FileTree) (p : Path) (text : String) (device : Device := {}) :
    FileTree × Option FileError :=
  match t.target p, device.opening with
  | .error e, _ => (t, some e)
  | .ok _, some e => (t, some e)
  | .ok (l, fault), none =>
    (t.set l (.file (.text (Limit.taken device.disk text)) fault),
      Limit.failure? device.disk text)

/-- Lists a directory at a location unless something lies there. -/
def makeDirectory (t : FileTree) (l : Location) : FileTree :=
  match t.entryAt? l with
  | some _ => t
  | none => t.set l .directory

/-- The files of the tree with their contents. -/
def files (t : FileTree) : List (Location × Content) :=
  t.entries.filterMap fun e =>
    match e.2 with
    | .file c _ => some (e.1, c)
    | .directory => none

end FileTree

end TextQuery
