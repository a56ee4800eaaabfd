import RecordMapper.Disk.Path
import RecordMapper.Source.Spec

/-!
# Targets

Where the sources of a table go: for the model, the spec and the arbitrary trait the name of the
class, its qualified name and the path of its file.
-/
namespace RecordMapper

open RecordMapper.Config RecordMapper.Disk RecordMapper.Source

structure Target where
  className : String
  qualifiedName : String
  path : Path
  deriving DecidableEq, Repr

namespace Target

/-- The target of a class whose sources are below a directory. -/
def below (config : Settings) (root className : String) : Target where
  className
  qualifiedName := Naming.qualified config.package className
  path := Path.ofString root ++ packagePath config.package ++ Path.ofString (className ++ ".scala")

def model (config : Settings) (className : String) : Target :=
  below config config.sourceDir className

def spec (config : Settings) (className : String) : Target :=
  below config config.testDir (specClassName className config.abstractSpec)

def arbitrary (config : Settings) (className : String) : Target :=
  below config config.testDir (className ++ "Arbitrary")

end Target

end RecordMapper
