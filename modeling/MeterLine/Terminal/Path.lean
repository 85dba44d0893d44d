import MeterLine.Failure

/-!
# Names of terminals

A terminal is opened under a path name.  A name is resolved part by part, from
the root if it begins with a slash and from the working directory if it does
not.  Of the tree of files only as much is known as an attempt to open something
that is no terminal can tell: the root, the directory of devices, and the null
device in it.  The working directory holds nothing.
-/

namespace MeterLine

/-- What a path name leads to. -/
inductive PathTarget where
  | root
  | workingDirectory
  | devices
  | nullDevice
  deriving Repr, DecidableEq, Inhabited

inductive PathFault where
  | invalidName
  | nameTooLong
  | missing
  | notDirectory
  deriving Repr, DecidableEq, Inhabited

namespace PathTarget

def partLimit : Nat := 255

def nameLimit : Nat := 4095

def step (target : PathTarget) (part : String) :
    Except PathFault PathTarget :=
  if target = .nullDevice then .error .notDirectory
  else if part = "" ∨ part = "." then .ok target
  else if part = ".." then
    .ok (if target = .devices then .root else target)
  else if partLimit < part.utf8ByteSize then .error .nameTooLong
  else
    match target, part with
    | .root, "dev" => .ok .devices
    | .devices, "null" => .ok .nullDevice
    | _, _ => .error .missing

def resolve (name : String) : Except PathFault PathTarget :=
  if name.toList.contains (Char.ofNat 0) then .error .invalidName
  else if name = "" then .error .missing
  else if nameLimit < name.utf8ByteSize then .error .nameTooLong
  else
    match name.splitOn "/" with
    | "" :: parts => parts.foldlM step .root
    | parts => parts.foldlM step .workingDirectory

/-- What the backend says when it is to open a name that is no terminal's. -/
def openFault (name : String) : SerialFault :=
  let unknown := fun text : String => (⟨.unknown, text⟩ : SerialFault)
  match resolve name with
  | .ok .nullDevice => unknown "Not a typewriter"
  | .ok _ => unknown "Is a directory"
  | .error .invalidName => unknown "Invalid argument"
  | .error .nameTooLong => unknown "File name too long"
  | .error .notDirectory => unknown "Not a directory"
  | .error .missing => ⟨.noDevice, "No such file or directory"⟩

end PathTarget

end MeterLine
