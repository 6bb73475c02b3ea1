import BuildDispatch.Policy

/-!
The built-in presets: a policy table each, and the toolchain that one of them pins.
-/

namespace BuildDispatch

/-- The built-in choices of policies. -/
inductive Preset where
  | swym
  | htm
  | rbtree
  deriving Repr, DecidableEq

namespace Preset

/-- The preset in force when none is asked for. -/
def fallback : Preset := .swym

/-- All presets, in the order in which they are offered. -/
def all : List Preset := [.swym, .htm, .rbtree]

/-- The name on the command line and in a configuration. -/
def name : Preset → String
  | .swym => "swym"
  | .htm => "htm"
  | .rbtree => "rbtree"

/-- What a preset is for, as help shows it. -/
def summary : Preset → String
  | .swym => "The STM library itself: serial tests with allocator debugging and stats"
  | .htm => "Hardware transactional memory bindings (x86 RTM)"
  | .rbtree => "Red-black tree on top of swym, built with nightly"

/-- The preset with exactly this name. -/
def named? (s : String) : Option Preset := all.find? fun p => p.name == s

/-- Lower case of the ASCII letters; other characters stay. -/
def asciiLower (s : String) : List Char := s.toList.map Char.toLower

/-- The preset with this name up to the case of ASCII letters. -/
def namedIgnoringCase? (s : String) : Option Preset :=
  all.find? fun p => asciiLower p.name == asciiLower s

/-- The toolchain a preset pins. -/
def toolchain : Preset → Option String
  | .swym | .htm => none
  | .rbtree => some "nightly"

/-- The variable that bounds the number of test threads. -/
def testThreads : String := "RUST_TEST_THREADS"

/-- The variable with flags for the compiler. -/
def compilerFlags : String := "RUSTFLAGS"

/-- Builds for the processor at hand. -/
def native : String := "-Ctarget-cpu=native"

/-- Builds for the processor at hand with restricted transactional memory enabled. -/
def nativeTransactional : String := "-Ctarget-feature=+rtm -Ctarget-cpu=native"

/-- The policies of a preset. -/
def table : Preset → PolicyTable
  | .swym => .ofList [
      ("test", ActionPolicy.empty.set testThreads "1"
        |>.withArgs ["--features", "debug-alloc,stats"]),
      ("bench", ActionPolicy.empty.append compilerFlags native)]
  | .htm =>
    let transactional := ActionPolicy.empty.append compilerFlags nativeTransactional
      |>.withArgs ["--features", "rtm"]
    .ofList [
      ("test", ActionPolicy.empty.set testThreads "1"
        |>.append compilerFlags nativeTransactional
        |>.withArgs ["--features", "rtm"]),
      ("doc", transactional),
      ("bench", transactional)]
  | .rbtree => .ofList [
      ("test", ActionPolicy.empty.set testThreads "1" |>.withArgs ["--features", "stats"]),
      ("bench", ActionPolicy.empty.append compilerFlags native)]

end Preset

end BuildDispatch
