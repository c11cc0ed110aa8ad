import HostTools.Shell.FileTest

set_option autoImplicit false

namespace HostTools.Shell.Opening

def shownReason (missing : String) (error : IoError) : String :=
  if error = .noSuchFile || error = .notDirectory then missing else reason error

def device (device : Device) : Act (Except IoError Stream) := do
  match device with
  | .null => pure (.ok .nowhere)
  | .full => pure (.ok .full)
  | .terminal => pure (.error (.os 6))
  | .descriptor number =>
    match (← process).descriptors.lookup number with
    | some stream => pure (.ok stream)
    | none => pure (.error .noSuchFile)

def forReading (path : String) : Act (Except IoError Stream) := do
  match ← resolve path with
  | .error error => pure (.error error)
  | .ok place =>
    match (← world).disk.entry? place with
    | some .directory => pure (.ok .directory)
    | some (.file content) => do
      pure (.ok (.pipe (← newPipe (content.map Bytes.toChar))))
    | some (.device found) => device found
    | _ => pure (.ok .nowhere)

def newPlace (path : String) : Act (Except IoError Place) := do
  let (front, name) := FileTest.divide path
  match ← resolve front with
  | .error error => pure (.error error)
  | .ok place =>
    if !(← world).disk.isDirectory place then pure (.error .notDirectory)
    else if name.isEmpty then pure (.error (if path.isEmpty then .noSuchFile else .isDirectory))
    else pure (.ok (place ++ [toText name]))

def forWriting (path : String) (keeps protects : Bool) : Act (Except IoError Stream) := do
  let empty (place : Place) : Act Unit :=
    changeWorld fun world => { world with disk := world.disk.write place [] }
  match ← resolve path with
  | .ok place =>
    match (← world).disk.entry? place with
    | some .directory => pure (.error .isDirectory)
    | some (.device found) => device found
    | some (.tool _) => pure (.error (.os 26))
    | _ =>
      if protects then pure (.error (.os 17))
      else
        if !keeps then empty place
        pure (.ok (.file place))
  | .error error =>
    if error ≠ .noSuchFile then pure (.error error)
    else
      match ← newPlace path with
      | .error error => pure (.error error)
      | .ok place =>
        empty place
        pure (.ok (.file place))

def run (opening : Opening) (path : String) : Act (Except String Stream) := do
  let protects := (← process).has .keepFiles
  let create (opened : Except IoError Stream) : Except String Stream :=
    opened.mapError fun error => "cannot create " ++ path ++ ": " ++ shownReason "Directory nonexistent" error
  match opening with
  | .read =>
    pure ((← forReading path).mapError fun error =>
      "cannot open " ++ path ++ ": " ++ shownReason "No such file" error)
  | .both =>
    match ← forReading path with
    | .ok .directory => pure (create (.error .isDirectory))
    | .ok stream => pure (.ok stream)
    | .error _ => do pure (create (← forWriting path true false))
  | .write => do pure (create (← forWriting path false protects))
  | .clobber => do pure (create (← forWriting path false false))
  | .append => do pure (create (← forWriting path true false))

end HostTools.Shell.Opening
