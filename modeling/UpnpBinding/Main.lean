import UpnpBinding.Cli.Commands
/-!
The `upnp-bindgen` program: the command line run on the words it is given, with the files it
names read from the disk. It makes no HTTP requests, so a call cannot reach its device.
-/
open UpnpBinding UpnpBinding.Cli

def readFiles (paths : List String) : IO (List (String × Except FileError ByteArray)) :=
  paths.mapM fun (p : String) => do
    try
      return (p, .ok (← IO.FS.readBinFile p))
    catch e =>
      let err := match e with
        | .noFileOrDirectory .. => FileError.notFound p
        | .inappropriateType _ code _ =>
          if code == 20 then FileError.notDirectory p else FileError.isDirectory p
        | .invalidArgument _ 36 _ => FileError.nameTooLong p
        | _ => FileError.other (toString e)
      return (p, .error err)

def main (args : List String) : IO UInt32 := do
  let files ← readFiles (inputFiles args)
  let env : Environment :=
    ⟨fun p => ((files.find? (·.1 == p)).map Prod.snd).getD (.error (.notFound p)),
      fun r => .error (.unreachable r.url)⟩
  match run env args with
  | .ok e =>
    IO.print e.stdout
    IO.eprint e.stderr
    return e.code.toUInt32
  | .error c =>
    IO.eprintln c.message
    return 1
