import MicroADB.Adb

/-! The POSIX calls of the file sync service, as the outcomes of an arbitrary
environment. Only what POSIX promises of their results is assumed. -/
namespace MicroADB
open ByteMemory

def eINTR : ℕ := 4
def eAGAIN : ℕ := 11
def eEXIST : ℕ := 17
def eINVAL : ℕ := 22

/-- The fields of struct stat that the service reports. -/
structure Stat where
  stMode : ℕ
  stSize : ℤ
  stMtime : ℤ
deriving DecidableEq, Repr

/-- O_RDONLY, or O_WRONLY | O_CREAT | O_TRUNC with a mode. -/
inductive OpenMode
  | rdonly
  | create (mode : ℕ)
deriving DecidableEq, Repr

/-- A file system with states ω. A call gives the next state and what it returns:
a file descriptor or -1 as int, a pointer or NULL as an option (malloc's with the bytes
that happen to be there), the bytes that a read delivered (none for -1, the empty list
at the end of the file). Lengths that the code keeps in an int fit in one. -/
structure FileSystem (ω : Type) where
  errno : ω → ℕ
  strerror : ℕ → List UInt8
  stat : ω → List UInt8 → ω × Option Stat
  lstat : ω → List UInt8 → ω × Option Stat
  unlink : ω → List UInt8 → ω
  mkdir : ω → List UInt8 → ℕ → ω × ℤ
  openFile : ω → List UInt8 → OpenMode → ω × ℤ
  read : ω → ℤ → ℕ → ω × Option (List UInt8)
  write : ω → ℤ → List UInt8 → ω × ℤ
  close : ω → ℤ → ω
  opendir : ω → List UInt8 → ω × Option ℕ
  readdir : ω → ℕ → ω × Option (List UInt8)
  closedir : ω → ℕ → ω
  malloc : ω → ℕ → ω × Option (ℕ × Mem)
  free : ω → ℕ → ω
  symlink : ω → List UInt8 → List UInt8 → ω × ℤ
  /-- How often write can still be interrupted before it completes or fails. -/
  interrupts : ω → ℕ
  strerror_lt : ∀ e, (strerror e).length < 2^30
  readdir_lt : ∀ s d name, (readdir s d).2 = some name → name.length < 2^30
  read_le : ∀ s fd n bs, (read s fd n).2 = some bs → bs.length ≤ n
  read_lt : ∀ s fd n bs, (read s fd n).2 = some bs → bs.length ≤ 0x7ffff000
  write_le : ∀ s fd bs, (write s fd bs).2 ≤ bs.length
  write_interrupted : ∀ s fd bs, (write s fd bs).2 < 0 → errno (write s fd bs).1 = eINTR →
    interrupts (write s fd bs).1 < interrupts s

/-- A system call of the service with its outcome, or a step of the service that
the theorems speak about. -/
inductive SyncEvent
  | stat (path : List UInt8) (found : Bool)
  | lstat (path : List UInt8) (found : Bool)
  | unlink (path : List UInt8)
  | mkdir (path : List UInt8) (ret : ℤ) (errno : ℕ)
  | openFile (path : List UInt8) (mode : OpenMode) (fd : ℤ)
  | read (fd : ℤ) (ret : Option ℕ)
  | write (fd : ℤ) (bytes : List UInt8) (ret : ℤ) (errno : ℕ)
  | close (fd : ℤ)
  | opendir (path : List UInt8) (d : Option ℕ)
  | readdir (d : ℕ) (name : Option (List UInt8))
  | closedir (d : ℕ)
  | malloc (n : ℕ) (res : Option ℕ)
  | free (b : ℕ)
  | symlink (target path : List UInt8) (ret : ℤ)
  /-- state_wait_cmd took n more bytes of a request header. -/
  | header (n : ℕ)
  /-- A request starts to be executed. -/
  | exec (cmd : ℕ) (name : List UInt8)
  /-- The room computed for the variable part of a reply, or for a name in a path. -/
  | room (n : ℤ)
deriving DecidableEq, Repr

/-- A file system without a single file, for runs on fixed inputs. -/
def emptyFs : FileSystem Unit where
  errno _ := 2
  strerror _ := ascii "No such file or directory"
  stat s _ := (s, none)
  lstat s _ := (s, none)
  unlink s _ := s
  mkdir s _ _ := (s, -1)
  openFile s _ _ := (s, -1)
  read s _ _ := (s, none)
  write s _ _ := (s, -1)
  close s _ := s
  opendir s _ := (s, none)
  readdir s _ := (s, none)
  closedir s _ := s
  malloc s _ := (s, some (0, fun _ => 0))
  free s _ := s
  symlink s _ _ := (s, -1)
  interrupts _ := 0
  strerror_lt _ := by decide
  readdir_lt _ _ _ h := by cases h
  read_le _ _ _ _ h := by cases h
  read_lt _ _ _ _ h := by cases h
  write_le _ _ _ := by simp only; omega
  write_interrupted _ _ _ _ h := by cases h

end MicroADB
