import RecordMarking.Distribution.Packages
import RecordMarking.Distribution.Requirements
import RecordMarking.Distribution.Version
import RecordMarking.Quantity

/-!
# Descriptions

What a packaging tool is told about the package. Most of it is fixed; the long description, the
version, the requirements and the packages are taken from the source tree. `describe` reads the
files in a fixed order, and the first flaw ends it.
-/

namespace RecordMarking.Distribution

/-- The description of a package. -/
structure Description where
  name : String
  summary : String
  longDescription : String
  /-- The media type of the long description. -/
  contentType : String
  license : String
  version : String
  /-- The interpreters that the package runs on. -/
  interpreters : String
  requirements : List String
  /-- What is required to work on the package. -/
  developmentRequirements : List String
  /-- The directory that holds the packages. -/
  packageRoot : String
  packages : List String
  classifiers : List String
  keywords : List String
deriving DecidableEq, Repr

/-- The oldest interpreter that the package supports. -/
def oldestInterpreter : List Int := [3, 8, 0]

/-- Refuse a version that is older than another. Versions are compared part by part up to the
first difference, where both parts have to be numbers, and one that stops early is older. -/
def checkVersion (oldest : List Int) (version : List Value) : Except Flaw Unit :=
  match oldest, version with
  | [], _ => .ok ()
  | _ :: _, [] => .error .interpreterTooOld
  | least :: others, part :: rest =>
    match part.quantity? with
    | none => .error (.versionNotNumeric part.typeName)
    | some quantity =>
      if quantity.within least least then checkVersion others rest
      else if quantity.atLeast least then .ok ()
      else .error .interpreterTooOld

/-- Refuse an interpreter that is older than the oldest supported one. -/
def checkInterpreter (version : List Value) : Except Flaw Unit :=
  checkVersion oldestInterpreter version

/-- The long description of the package in a source tree. -/
def Tree.longDescription (tree : Tree) : Except Flaw String := do
  return .ofList (← tree.readText "README.md")

/-- Describe the package in a source tree. -/
def Tree.describe (tree : Tree) : Except Flaw Description := do
  let longDescription ← tree.longDescription
  let version ← tree.version
  let requirements ← tree.requirements "requirements.txt"
  let developmentRequirements ← tree.requirements "requirements.dev.txt"
  return {
    name := "rpcrm"
    summary := "rpcrm implements RPC record marking (RFC 5531) for stream transports"
    longDescription
    contentType := "text/markdown"
    license := "MIT license"
    version
    interpreters := ">=3.8"
    requirements
    developmentRequirements
    packageRoot
    packages := tree.packages
    classifiers := [
      "Development Status :: 4 - Beta",
      "Intended Audience :: Developers",
      "Programming Language :: Python :: 3",
      "Programming Language :: Python :: Implementation :: CPython"]
    keywords := ["rpc", "sunrpc", "onc-rpc", "rfc5531", "record marking", "framing"] }

end RecordMarking.Distribution
