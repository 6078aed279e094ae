import MicroADB.AdbRun
import MicroADB.Ledger

/-! The start-up of a shell: the block of its argv, the pseudo terminal, the pipe and the process,
with an exit behind each call that can fail. -/
namespace MicroADB
open ByteMemory Ledger

/-- CONFIG_ADBD_SHELL_SERVICE_CMD and CONFIG_ADBD_SHELL_SERVICE_PATH. -/
structure ShellConfig where
  cmd : List UInt8
  path : List UInt8
  cmd_nul : (0 : UInt8) ∉ cmd

/-- What a start-up asks of a system with states ω. malloc returns NULL or a block, with the bytes
that happen to be there; a descriptor is negative when there is none, and 0 is the return of the
other calls that succeed. -/
structure Pty (ω : Type) where
  malloc : ω → ℕ → ω × Option (ℕ × Mem)
  free : ω → ℕ → ω
  openpt : ω → ω × ℤ
  grantpt : ω → ℤ → ω × ℤ
  unlockpt : ω → ℤ → ω × ℤ
  /-- open of what ptsname returns. -/
  openSlave : ω → ℤ → ω × ℤ
  /-- cfmakeraw and tcsetattr -/
  makeRaw : ω → ℤ → ω
  close : ω → ℤ → ω
  pipeInit : ω → ω × ℤ
  pipeOpen : ω → ℤ → ω × ℤ
  spawn : ω → List UInt8 → List (List UInt8) → ω × ℤ

/-- A call of the start-up with its outcome. -/
inductive ShellEvent
  | malloc (n : ℕ) (res : Option ℕ)
  | free (b : ℕ)
  | openpt (fd : ℤ)
  | grantpt (fd ret : ℤ)
  | unlockpt (fd ret : ℤ)
  | openSlave (master fd : ℤ)
  | makeRaw (fd : ℤ)
  | close (fd : ℤ)
  | pipeInit (ret : ℤ)
  | pipeOpen (fd ret : ℤ)
  /-- uv_spawn of a file with its arguments; the three streams of the child are fd. -/
  | spawn (file : List UInt8) (args : List (List UInt8)) (fd ret : ℤ)
  | kick
deriving DecidableEq, Repr

/-! The block of argv. -/

/-- sizeof(char *) -/
def sizeofPtr : ℕ := 8

/-- A block with pointers in front, which are offsets in it or NULL, and its bytes. -/
structure ArgBlock where
  addr : ℕ
  size : ℕ
  args : List (Option ℕ)
  mem : Mem

def ArgBlock.strcpy (b : ArgBlock) (o : ℕ) (s : List UInt8) : ArgBlock :=
  { b with mem := store b.mem o (s ++ [0]) }

/-- The strings that execvp finds: those of the pointers in front of the first NULL. -/
def ArgBlock.strings (b : ArgBlock) : List (List UInt8) :=
  (b.args.takeWhile Option.isSome).reduceOption.map fun o => cstring b.mem o (b.size-o)

/-- sizeof(CONFIG_ADBD_SHELL_SERVICE_CMD) -/
def ShellConfig.sizeofCmd (sh : ShellConfig) : ℕ := sh.cmd.length+1

/-- What is allocated for argv: <sh -c "command">, or <sh>. -/
def argvSize (sh : ShellConfig) (target : List UInt8) : ℕ :=
  if target ≠ [] then sizeofPtr*4+sh.sizeofCmd+3+(target.length+1) else sizeofPtr*2+sh.sizeofCmd

def setupArgv (sh : ShellConfig) (target : List UInt8) (addr : ℕ) (raw : Mem) : ArgBlock :=
  if target ≠ [] then
    let arg0 := sizeofPtr*4
    let arg1 := arg0+sh.sizeofCmd
    let arg2 := arg1+3
    let argv : ArgBlock := ⟨addr,argvSize sh target,[some arg0,some arg1,some arg2,none],raw⟩
    ((argv.strcpy arg1 (ascii "-c")).strcpy arg2 target).strcpy arg0 sh.cmd
  else
    let arg0 := sizeofPtr*2
    let argv : ArgBlock := ⟨addr,argvSize sh target,[some arg0,none],raw⟩
    argv.strcpy arg0 sh.cmd

/-! The start-up. -/

structure ShellCtx (ω : Type) where
  os : ω
  log : List ShellEvent

variable {ω : Type}

def ShellCtx.call (c : ShellCtx ω) (os : ω) (e : ShellEvent) : ShellCtx ω := ⟨os,c.log ++ [e]⟩

namespace Pty

variable (pty : Pty ω) (sh : ShellConfig)

def sysFree (c : ShellCtx ω) (b : ℕ) : ShellCtx ω := c.call (pty.free c.os b) (.free b)

def sysClose (c : ShellCtx ω) (fd : ℤ) : ShellCtx ω := c.call (pty.close c.os fd) (.close fd)

def sysMalloc (c : ShellCtx ω) (n : ℕ) : Option (ℕ × Mem) × ShellCtx ω :=
  let r := pty.malloc c.os n
  (r.2, c.call r.1 (.malloc n (r.2.map Prod.fst)))

def exitFreeService (c : ShellCtx ω) (service : ℕ) : ShellCtx ω := pty.sysFree c service

def exitFreeArgv (c : ShellCtx ω) (service argv : ℕ) : ShellCtx ω :=
  pty.exitFreeService (pty.sysFree c argv) service

def exitCloseFd0 (c : ShellCtx ω) (service argv : ℕ) (fd0 : ℤ) : ShellCtx ω :=
  pty.exitFreeArgv (pty.sysClose c fd0) service argv

def exitCloseFd1 (c : ShellCtx ω) (service argv : ℕ) (fd0 fd1 : ℤ) : ShellCtx ω :=
  pty.exitCloseFd0 (pty.sysClose c fd1) service argv fd0

/-- From uv_spawn on. -/
def startProcess (c : ShellCtx ω) (service : ℕ) (argv : ArgBlock) (fd0 fd1 : ℤ) :
    Option ShellExit × ShellCtx ω :=
  let r := pty.spawn c.os sh.path argv.strings
  let c := c.call r.1 (.spawn sh.path argv.strings fd1 r.2)
  if r.2 ≠ 0 then (some .spawn, pty.exitCloseFd1 c service argv.addr fd0 fd1)
  else
    let c := pty.sysFree (pty.sysClose c fd1) argv.addr
    (none, c.call c.os .kick)

/-- The pipe endpoint that is managed by the daemon. -/
def startPipe (c : ShellCtx ω) (service : ℕ) (argv : ArgBlock) (fd0 fd1 : ℤ) :
    Option ShellExit × ShellCtx ω :=
  let r := pty.pipeInit c.os
  let c := c.call r.1 (.pipeInit r.2)
  if r.2 ≠ 0 then (some .pipeInit, pty.exitCloseFd1 c service argv.addr fd0 fd1)
  else
    let r := pty.pipeOpen c.os fd0
    let c := c.call r.1 (.pipeOpen fd0 r.2)
    if r.2 ≠ 0 then (some .pipeOpen, pty.exitCloseFd1 c service argv.addr fd0 fd1)
    else pty.startProcess sh c service argv fd0 fd1

/-- The two ends of the pseudo terminal. A session that is not interactive is switched to raw
mode. -/
def startPty (c : ShellCtx ω) (target : List UInt8) (service : ℕ) (argv : ArgBlock) :
    Option ShellExit × ShellCtx ω :=
  let r := pty.openpt c.os
  let fd0 := r.2
  let c := c.call r.1 (.openpt fd0)
  if fd0 < 0 then (some .ptmx, pty.exitFreeArgv c service argv.addr)
  else
    let r := pty.grantpt c.os fd0
    let c := c.call r.1 (.grantpt fd0 r.2)
    if r.2 ≠ 0 then (some .grant, pty.exitCloseFd0 c service argv.addr fd0)
    else
      let r := pty.unlockpt c.os fd0
      let c := c.call r.1 (.unlockpt fd0 r.2)
      if r.2 ≠ 0 then (some .unlock, pty.exitCloseFd0 c service argv.addr fd0)
      else
        let r := pty.openSlave c.os fd0
        let fd1 := r.2
        let c := c.call r.1 (.openSlave fd0 fd1)
        if fd1 < 0 then (some .slave, pty.exitCloseFd0 c service argv.addr fd0)
        else
          let c := if target ≠ [] then c.call (pty.makeRaw c.os fd1) (.makeRaw fd1) else c
          pty.startPipe sh c service argv fd0 fd1

/-- shell_service for a command, with the exit that it takes; none when it returns the service.
The size of the service is that of its structure. -/
def shellStart (sizeofService : ℕ) (os : ω) (target : List UInt8) :
    Option ShellExit × ShellCtx ω :=
  let svc := pty.sysMalloc ⟨os,[]⟩ sizeofService
  match svc.1 with
  | none => (some .service, svc.2)
  | some (service, _) =>
    let block := pty.sysMalloc svc.2 (argvSize sh target)
    match block.1 with
    | none => (some .argv, pty.exitFreeService block.2 service)
    | some (addr, raw) => pty.startPty sh block.2 target service (setupArgv sh target addr raw)

/-- The start-up as the rest of the daemon sees it. -/
def shell (sizeofService : ℕ) (os : ω) (target : List UInt8) : ω × Option ShellExit :=
  ((pty.shellStart sh sizeofService os target).2.os, (pty.shellStart sh sizeofService os target).1)

end Pty

/-! What is in the block. -/

/-- The strings of argv, one behind the other. -/
def argvText (sh : ShellConfig) (target : List UInt8) : List UInt8 :=
  if target ≠ [] then sh.cmd ++ 0 :: (ascii "-c" ++ 0 :: (target ++ [0])) else sh.cmd ++ [0]

/-- The arguments of the child. -/
def shellArgs (sh : ShellConfig) (target : List UInt8) : List (List UInt8) :=
  if target ≠ [] then [sh.cmd,ascii "-c",target] else [sh.cmd]

/-- The block of <sh -c "command">. -/
theorem setup_argv_command (sh : ShellConfig) {target : List UInt8} (h : target ≠ []) (addr : ℕ)
    (raw : Mem) : setupArgv sh target addr raw =
      ⟨addr,sizeofPtr*4+(argvText sh target).length,
        [some (sizeofPtr*4),some (sizeofPtr*4+(sh.cmd.length+1)),
          some (sizeofPtr*4+(sh.cmd.length+1)+3),none],
        store raw (sizeofPtr*4) (argvText sh target)⟩ := by
  have hback := store_append raw (sizeofPtr*4+(sh.cmd.length+1)) (ascii "-c" ++ [0]) (target ++ [0])
  have hfront := store_front raw (sizeofPtr*4) (sh.cmd ++ [0])
    (ascii "-c" ++ [0] ++ (target ++ [0]))
  have hlen : (sh.cmd ++ [0]).length = sh.cmd.length+1 := by simp
  have htext : argvText sh target = sh.cmd ++ [0] ++ (ascii "-c" ++ [0] ++ (target ++ [0])) := by
    rw [argvText, if_pos h]
    simp
  have hsize : argvSize sh target = sizeofPtr*4+(argvText sh target).length := by
    rw [argvSize, if_pos h, htext]
    simp [ShellConfig.sizeofCmd, ascii]
    omega
  rw [hlen, ← hback] at hfront
  unfold setupArgv
  rw [if_pos h, hsize, htext, ← hfront]
  rfl

/-- The block of <sh>. -/
theorem setup_argv_plain (sh : ShellConfig) (addr : ℕ) (raw : Mem) : setupArgv sh [] addr raw =
    ⟨addr,sizeofPtr*2+(argvText sh []).length,[some (sizeofPtr*2),none],
      store raw (sizeofPtr*2) (argvText sh [])⟩ := by
  have hsize : argvSize sh [] = sizeofPtr*2+(argvText sh []).length := by
    simp [argvSize, argvText, ShellConfig.sizeofCmd]
  unfold setupArgv
  rw [if_neg (by simp), hsize]
  rfl

/-- The strings fill the block behind its pointers, and nothing else of it is written. -/
theorem setup_argv_fills (sh : ShellConfig) (target : List UInt8) (addr : ℕ) (raw : Mem) :
    (setupArgv sh target addr raw).mem =
        store raw (sizeofPtr*(setupArgv sh target addr raw).args.length) (argvText sh target) ∧
      sizeofPtr*(setupArgv sh target addr raw).args.length+(argvText sh target).length =
        argvSize sh target := by
  by_cases h : target = []
  · subst h
    rw [setup_argv_plain]
    exact ⟨rfl,by simp [argvSize, argvText, ShellConfig.sizeofCmd]⟩
  · rw [setup_argv_command sh h]
    refine ⟨rfl,?_⟩
    rw [argvSize, argvText, if_pos h, if_pos h]
    simp [ShellConfig.sizeofCmd, ascii]
    omega

theorem setup_argv_strings (sh : ShellConfig) {target : List UInt8} (hnul : (0 : UInt8) ∉ target)
    (addr : ℕ) (raw : Mem) : (setupArgv sh target addr raw).strings = shellArgs sh target := by
  by_cases h : target = []
  · subst h
    have hcmd := cstring_stored raw (sizeofPtr*2) [] sh.cmd [] sh.cmd_nul
      (argvText sh []).length (by simp [argvText])
    have htext : argvText sh [] = [] ++ (sh.cmd ++ 0 :: []) := rfl
    rw [setup_argv_plain, ArgBlock.strings, htext]
    rw [htext] at hcmd
    have hargs : ([some (sizeofPtr*2),none].takeWhile Option.isSome).reduceOption =
        [sizeofPtr*2] := rfl
    rw [hargs]
    simpa [shellArgs] using hcmd
  · have htext : argvText sh target = sh.cmd ++ 0 :: (ascii "-c" ++ 0 :: (target ++ [0])) :=
      if_pos h
    have hcmd := cstring_stored raw (sizeofPtr*4) [] sh.cmd (ascii "-c" ++ 0 :: (target ++ [0]))
      sh.cmd_nul (argvText sh target).length (by simp [htext])
    have hopt := cstring_stored raw (sizeofPtr*4) (sh.cmd ++ [0]) (ascii "-c") (target ++ [0])
      (by decide) (3+(target.length+1)) (show 2 < 3+(target.length+1) by omega)
    have htarget := cstring_stored raw (sizeofPtr*4) (sh.cmd ++ 0 :: (ascii "-c" ++ [0])) target []
      hnul (target.length+1) (Nat.lt_succ_self _)
    have hlen : (argvText sh target).length = sh.cmd.length+1+(3+(target.length+1)) := by
      rw [htext]
      simp [ascii]
      omega
    rw [setup_argv_command sh h, shellArgs, if_pos h]
    set m := store raw (sizeofPtr*4) (argvText sh target) with hm
    change [cstring m (sizeofPtr*4) (sizeofPtr*4+(argvText sh target).length-sizeofPtr*4),
      cstring m (sizeofPtr*4+(sh.cmd.length+1))
        (sizeofPtr*4+(argvText sh target).length-(sizeofPtr*4+(sh.cmd.length+1))),
      cstring m (sizeofPtr*4+(sh.cmd.length+1)+3)
        (sizeofPtr*4+(argvText sh target).length-(sizeofPtr*4+(sh.cmd.length+1)+3))] = _
    have hroom : sizeofPtr*4+(argvText sh target).length-(sizeofPtr*4+(sh.cmd.length+1)) =
        3+(target.length+1) := by omega
    have hlast : sizeofPtr*4+(argvText sh target).length-(sizeofPtr*4+(sh.cmd.length+1)+3) =
        target.length+1 := by omega
    rw [Nat.add_sub_cancel_left, hroom, hlast, hm, htext]
    rw [htext] at hcmd
    simp [ascii] at hcmd hopt htarget ⊢
    exact ⟨hcmd,hopt,htarget⟩

/-! What a start-up holds. -/

inductive ShellRes
  | block (b : ℕ)
  | fd (n : ℤ)
  /-- The pipe handle in the service, which the loop knows from uv_pipe_init on. -/
  | handle
  /-- The process handle in the service, which the loop knows from uv_spawn on, whatever that
  returns. -/
  | process
deriving DecidableEq, Repr

def ShellEvent.acquires : ShellEvent → Option ShellRes
  | .malloc _ (some b) => some (.block b)
  | .openpt fd | .openSlave _ fd => if 0 ≤ fd then some (.fd fd) else none
  | .pipeInit ret => if ret = 0 then some .handle else none
  | .spawn _ _ _ _ => some .process
  | _ => none

def ShellEvent.releases : ShellEvent → Option ShellRes
  | .free b => some (.block b)
  | .close fd => some (.fd fd)
  | _ => none

def shellHeld (l : List ShellEvent) : Option (Multiset ShellRes) :=
  held ShellEvent.acquires ShellEvent.releases 0 l

/-- What is held behind an exit. -/
def ShellExit.leaves (service : ℕ) (fd0 : ℤ) : Option ShellExit → Multiset ShellRes
  | none => .fd fd0 ::ₘ .block service ::ₘ .handle ::ₘ .process ::ₘ 0
  | some .pipeOpen => .handle ::ₘ 0
  | some .spawn => .handle ::ₘ .process ::ₘ 0
  | some _ => 0

section Held

variable {pty : Pty ω} {c : ShellCtx ω} {service addr : ℕ} {fd0 fd1 : ℤ} {k : Multiset ShellRes}

theorem malloc_none_held {n : ℕ} (h : shellHeld c.log = some k)
    (hn : (pty.sysMalloc c n).1 = none) : shellHeld (pty.sysMalloc c n).2.log = some k := by
  change (pty.malloc c.os n).2 = none at hn
  refine held_pass h ⟨?_,rfl⟩
  rw [hn]
  rfl

theorem malloc_some_held {n b : ℕ} {raw : Mem} (h : shellHeld c.log = some k)
    (hs : (pty.sysMalloc c n).1 = some (b,raw)) :
    shellHeld (pty.sysMalloc c n).2.log = some (.block b ::ₘ k) := by
  change (pty.malloc c.os n).2 = some (b,raw) at hs
  refine held_acquire h ?_
  rw [hs]
  rfl

theorem exit_free_service_held (h : shellHeld c.log = some (.block service ::ₘ k)) :
    shellHeld (pty.exitFreeService c service).log = some k := held_release h rfl rfl

theorem exit_free_argv_held (h : shellHeld c.log = some (.block addr ::ₘ .block service ::ₘ k)) :
    shellHeld (pty.exitFreeArgv c service addr).log = some k :=
  exit_free_service_held (held_release h rfl rfl)

theorem exit_close_fd0_held
    (h : shellHeld c.log = some (.fd fd0 ::ₘ .block addr ::ₘ .block service ::ₘ k)) :
    shellHeld (pty.exitCloseFd0 c service addr fd0).log = some k :=
  exit_free_argv_held (held_release h rfl rfl)

theorem exit_close_fd1_held
    (h : shellHeld c.log = some (.fd fd1 ::ₘ .fd fd0 ::ₘ .block addr ::ₘ .block service ::ₘ k)) :
    shellHeld (pty.exitCloseFd1 c service addr fd0 fd1).log = some k :=
  exit_close_fd0_held (held_release h rfl rfl)

end Held

variable (pty : Pty ω) (sh : ShellConfig) (c : ShellCtx ω) (service : ℕ) (argv : ArgBlock)
  (fd0 fd1 : ℤ)

theorem start_process_held (h : shellHeld c.log = some
    (.fd fd1 ::ₘ .fd fd0 ::ₘ .block argv.addr ::ₘ .block service ::ₘ .handle ::ₘ 0)) :
    shellHeld (pty.startProcess sh c service argv fd0 fd1).2.log = some
      (ShellExit.leaves service fd0 (pty.startProcess sh c service argv fd0 fd1).1) := by
  unfold Pty.startProcess
  dsimp only
  have hspawn : shellHeld (c.log ++ [.spawn sh.path argv.strings fd1
      (pty.spawn c.os sh.path argv.strings).2]) = some _ := held_acquire h rfl
  have hlast : (.process ::ₘ .fd fd1 ::ₘ .fd fd0 ::ₘ .block argv.addr ::ₘ .block service ::ₘ
      .handle ::ₘ 0 : Multiset ShellRes) = .fd fd1 ::ₘ .fd fd0 ::ₘ .block argv.addr ::ₘ
        .block service ::ₘ .handle ::ₘ .process ::ₘ 0 :=
    Multiset.coe_eq_coe.mpr (List.perm_append_singleton ShellRes.process
      [.fd fd1,.fd fd0,.block argv.addr,.block service,.handle]).symm
  rw [hlast] at hspawn
  split
  · exact exit_close_fd1_held hspawn
  · have hclosed : shellHeld _ = some _ := held_release hspawn (e := .close fd1) rfl rfl
    rw [Multiset.cons_swap] at hclosed
    exact held_pass (held_release hclosed rfl rfl) ⟨rfl,rfl⟩

theorem start_pipe_held (h : shellHeld c.log = some
    (.fd fd1 ::ₘ .fd fd0 ::ₘ .block argv.addr ::ₘ .block service ::ₘ 0)) :
    shellHeld (pty.startPipe sh c service argv fd0 fd1).2.log = some
      (ShellExit.leaves service fd0 (pty.startPipe sh c service argv fd0 fd1).1) := by
  unfold Pty.startPipe
  dsimp only
  split
  · rename_i hinit
    exact exit_close_fd1_held (held_pass h ⟨if_neg hinit,rfl⟩)
  · rename_i hinit
    have hacquired : shellHeld (c.log ++ [.pipeInit (pty.pipeInit c.os).2]) = some _ :=
      held_acquire h (if_pos (not_not.mp hinit))
    have hlast : (.handle ::ₘ .fd fd1 ::ₘ .fd fd0 ::ₘ .block argv.addr ::ₘ .block service ::ₘ 0 :
        Multiset ShellRes) =
          .fd fd1 ::ₘ .fd fd0 ::ₘ .block argv.addr ::ₘ .block service ::ₘ .handle ::ₘ 0 :=
      Multiset.coe_eq_coe.mpr (List.perm_append_singleton ShellRes.handle
        [.fd fd1,.fd fd0,.block argv.addr,.block service]).symm
    rw [hlast] at hacquired
    have hopened := held_pass hacquired (e := .pipeOpen fd0
      (pty.pipeOpen (pty.pipeInit c.os).1 fd0).2) ⟨rfl,rfl⟩
    split
    · exact exit_close_fd1_held hopened
    · exact start_process_held pty sh _ service argv fd0 fd1 hopened

theorem start_pty_held (target : List UInt8)
    (h : shellHeld c.log = some (.block argv.addr ::ₘ .block service ::ₘ 0)) :
    ∃ fd0, shellHeld (pty.startPty sh c target service argv).2.log = some
      (ShellExit.leaves service fd0 (pty.startPty sh c target service argv).1) := by
  refine ⟨(pty.openpt c.os).2,?_⟩
  unfold Pty.startPty
  dsimp only
  split
  · rename_i hneg
    exact exit_free_argv_held (held_pass h ⟨if_neg (by omega),rfl⟩)
  · rename_i hfd0
    have hmaster : shellHeld (c.log ++ [.openpt (pty.openpt c.os).2]) = some _ :=
      held_acquire h (if_pos (not_lt.mp hfd0))
    have hgrant := held_pass hmaster (e := .grantpt (pty.openpt c.os).2
      (pty.grantpt (pty.openpt c.os).1 (pty.openpt c.os).2).2) ⟨rfl,rfl⟩
    split
    · exact exit_close_fd0_held hgrant
    · set c₁ := pty.grantpt (pty.openpt c.os).1 (pty.openpt c.os).2
      have hunlock := held_pass hgrant (e := .unlockpt (pty.openpt c.os).2
        (pty.unlockpt c₁.1 (pty.openpt c.os).2).2) ⟨rfl,rfl⟩
      split
      · exact exit_close_fd0_held hunlock
      · set c₂ := pty.unlockpt c₁.1 (pty.openpt c.os).2
        split
        · rename_i hneg
          exact exit_close_fd0_held (held_pass hunlock ⟨if_neg (by omega),rfl⟩)
        · rename_i hfd1
          have hslave : shellHeld (_ ++ [.openSlave (pty.openpt c.os).2
              (pty.openSlave c₂.1 (pty.openpt c.os).2).2]) = some _ :=
            held_acquire hunlock (if_pos (not_lt.mp hfd1))
          refine start_pipe_held pty sh _ service argv _ _ ?_
          split
          · exact held_pass hslave ⟨rfl,rfl⟩
          · exact hslave

theorem shell_start_held (sizeofService : ℕ) (os : ω) (target : List UInt8) :
    ∃ service fd0, shellHeld (pty.shellStart sh sizeofService os target).2.log = some
      (ShellExit.leaves service fd0 (pty.shellStart sh sizeofService os target).1) := by
  unfold Pty.shellStart
  dsimp only
  have hnil : shellHeld [] = some 0 := rfl
  split
  · rename_i hnone
    exact ⟨0,0,malloc_none_held (c := ⟨os,[]⟩) hnil hnone⟩
  · rename_i service raw hsome
    have hservice := malloc_some_held (c := ⟨os,[]⟩) hnil hsome
    split
    · rename_i hnone
      exact ⟨service,0,exit_free_service_held (malloc_none_held hservice hnone)⟩
    · rename_i addr raw' hsome'
      have hargv := malloc_some_held hservice hsome'
      have haddr : (setupArgv sh target addr raw').addr = addr := by
        unfold setupArgv
        split <;> rfl
      rw [← haddr] at hargv
      obtain ⟨fd0,hheld⟩ := start_pty_held pty sh _ service (setupArgv sh target addr raw') target
        hargv
      exact ⟨service,fd0,hheld⟩

/-! What is run. -/

/-- A process is started with the configured file and these arguments only. -/
def ShellEvent.Runs (sh : ShellConfig) (args : List (List UInt8)) : ShellEvent → Prop
  | .spawn file args' _ _ => file = sh.path ∧ args' = args
  | _ => True

theorem start_process_runs (hruns : ∀ e ∈ c.log, e.Runs sh argv.strings) :
    ∀ e ∈ (pty.startProcess sh c service argv fd0 fd1).2.log, e.Runs sh argv.strings := by
  unfold Pty.startProcess
  dsimp only
  split <;>
    simpa [Pty.exitCloseFd1, Pty.exitCloseFd0, Pty.exitFreeArgv, Pty.exitFreeService, Pty.sysClose,
      Pty.sysFree, ShellCtx.call, or_imp, forall_and, ShellEvent.Runs] using hruns

theorem start_pipe_runs (hruns : ∀ e ∈ c.log, e.Runs sh argv.strings) :
    ∀ e ∈ (pty.startPipe sh c service argv fd0 fd1).2.log, e.Runs sh argv.strings := by
  unfold Pty.startPipe
  dsimp only
  split
  · simpa [Pty.exitCloseFd1, Pty.exitCloseFd0, Pty.exitFreeArgv, Pty.exitFreeService, Pty.sysClose,
      Pty.sysFree, ShellCtx.call, or_imp, forall_and, ShellEvent.Runs] using hruns
  · split
    · simpa [Pty.exitCloseFd1, Pty.exitCloseFd0, Pty.exitFreeArgv, Pty.exitFreeService,
        Pty.sysClose, Pty.sysFree, ShellCtx.call, or_imp, forall_and, ShellEvent.Runs] using hruns
    · refine start_process_runs pty sh _ service argv fd0 fd1 ?_
      simpa [ShellCtx.call, or_imp, forall_and, ShellEvent.Runs] using hruns

theorem start_pty_runs (target : List UInt8) (hruns : ∀ e ∈ c.log, e.Runs sh argv.strings) :
    ∀ e ∈ (pty.startPty sh c target service argv).2.log, e.Runs sh argv.strings := by
  have hexit := hruns
  unfold Pty.startPty
  dsimp only
  split_ifs
  all_goals first
    | simpa [Pty.exitCloseFd0, Pty.exitFreeArgv, Pty.exitFreeService, Pty.sysClose, Pty.sysFree,
        ShellCtx.call, or_imp, forall_and, ShellEvent.Runs] using hruns
    | refine start_pipe_runs pty sh _ service argv _ _ ?_
      simpa [ShellCtx.call, or_imp, forall_and, ShellEvent.Runs] using hruns

theorem shell_start_runs (sizeofService : ℕ) (os : ω) {target : List UInt8}
    (hnul : (0 : UInt8) ∉ target) :
    ∀ e ∈ (pty.shellStart sh sizeofService os target).2.log,
      e.Runs sh (shellArgs sh target) := by
  unfold Pty.shellStart
  dsimp only
  split
  · simp [Pty.sysMalloc, ShellCtx.call, ShellEvent.Runs]
  · split
    · simp [Pty.exitFreeService, Pty.sysFree, Pty.sysMalloc, ShellCtx.call, ShellEvent.Runs]
    · rename_i addr raw _
      rw [← setup_argv_strings sh hnul addr raw]
      refine start_pty_runs pty sh _ _ _ target ?_
      simp [Pty.sysMalloc, ShellCtx.call, ShellEvent.Runs]

theorem start_process_spawned (h : (pty.startProcess sh c service argv fd0 fd1).1 = none) :
    ∃ fd, .spawn sh.path argv.strings fd 0 ∈
      (pty.startProcess sh c service argv fd0 fd1).2.log := by
  unfold Pty.startProcess at h ⊢
  dsimp only at h ⊢
  by_cases hret : (pty.spawn c.os sh.path argv.strings).2 = 0
  · refine ⟨fd1,?_⟩
    rw [if_neg (not_not.mpr hret)]
    simp [Pty.sysFree, Pty.sysClose, ShellCtx.call, hret]
  · rw [if_pos hret] at h
    cases h

theorem start_pipe_spawned (h : (pty.startPipe sh c service argv fd0 fd1).1 = none) :
    ∃ fd, .spawn sh.path argv.strings fd 0 ∈ (pty.startPipe sh c service argv fd0 fd1).2.log := by
  unfold Pty.startPipe at h ⊢
  dsimp only at h ⊢
  split at h
  · cases h
  · rename_i hinit
    rw [if_neg hinit]
    split at h
    · cases h
    · rename_i hopen
      rw [if_neg hopen]
      exact start_process_spawned pty sh _ service argv fd0 fd1 h

theorem start_pty_spawned (target : List UInt8)
    (h : (pty.startPty sh c target service argv).1 = none) :
    ∃ fd, .spawn sh.path argv.strings fd 0 ∈ (pty.startPty sh c target service argv).2.log := by
  unfold Pty.startPty at h ⊢
  dsimp only at h ⊢
  split at h
  · cases h
  · rename_i hfd0
    rw [if_neg hfd0]
    split at h
    · cases h
    · rename_i hgrant
      rw [if_neg hgrant]
      split at h
      · cases h
      · rename_i hunlock
        rw [if_neg hunlock]
        split at h
        · cases h
        · rename_i hfd1
          rw [if_neg hfd1]
          exact start_pipe_spawned pty sh _ service argv _ _ h

/-- A shell that is returned is running. -/
theorem shell_start_spawned (sizeofService : ℕ) (os : ω) {target : List UInt8}
    (hnul : (0 : UInt8) ∉ target) (h : (pty.shellStart sh sizeofService os target).1 = none) :
    ∃ fd, .spawn sh.path (shellArgs sh target) fd 0 ∈
      (pty.shellStart sh sizeofService os target).2.log := by
  unfold Pty.shellStart at h ⊢
  dsimp only at h ⊢
  split at h
  · cases h
  · rename_i service raw hsome
    split at h
    · cases h
    · rename_i addr raw' hsome'
      rw [← setup_argv_strings sh hnul addr raw']
      exact start_pty_spawned pty sh _ service _ target h

/-! A shell that the host opens. -/

/-- The name of a shell with a command. -/
theorem service_name_shell {cfg : Config} (hshell : cfg.shellService = true) {up : ApacketUv}
    {cmd : List UInt8} {b : UInt8} (hp : up.p.payload = ascii "shell:" ++ cmd ++ [b])
    (hnul : (0 : UInt8) ∉ cmd) (hcap : up.p.msg.dataLength ≤ up.cap) :
    serviceName cfg (terminateName up) = .shell cmd := by
  have hlen : up.p.msg.dataLength = 6+cmd.length+1 := by
    have hlength := congrArg List.length hp
    rw [Apacket.payload, length_slice] at hlength
    simp [ascii] at hlength
    omega
  have hdata : (terminateName up).p.data = store up.p.data (6+cmd.length) [0] := by
    change store up.p.data (if 0 < up.p.msg.dataLength then up.p.msg.dataLength-1 else 0) [0] = _
    rw [if_pos (by omega), hlen, Nat.add_sub_cancel]
  have hname : slice (terminateName up).p.data 0 (6+cmd.length) = ascii "shell:" ++ cmd := by
    rw [hdata, slice_store_disjoint _ _ _ _ _ (Or.inl (by omega))]
    have hfront := congrArg (List.take (6+cmd.length)) hp
    rw [Apacket.payload, hlen, take_slice, min_eq_left (by omega)] at hfront
    rw [hfront, List.take_left' (by simp [ascii]; omega)]
  have hprefix (s : List UInt8) (hs : s.length ≤ 6) :
      (terminateName up).NameStarts s ↔ (ascii "shell:").take s.length = s := by
    have htake := congrArg (List.take s.length) hname
    rw [take_slice, min_eq_left (by omega), List.take_append_of_le_length (by simpa [ascii] using hs)]
      at htake
    unfold ApacketUv.NameStarts
    rw [htake]
  have hcmd : (terminateName up).nameFrom 6 = cmd := by
    refine cstring_of_slice _ _ _ _ ?_ hnul ?_ ?_
    · have hadd := slice_add (terminateName up).p.data 0 6 cmd.length
      rw [hname, Nat.zero_add] at hadd
      exact (List.append_inj_right hadd (by simp [ascii])).symm
    · rw [hdata]
      exact store_apply_of_mem up.p.data (6+cmd.length) 0 [0] (by simp)
    · change cmd.length < up.cap-6
      omega
  have hsync := hprefix (ascii "sync:") (by decide)
  have htcp := hprefix (ascii "tcp:") (by decide)
  have hsh := hprefix (ascii "shell") (by decide)
  unfold serviceName
  rw [if_neg (fun h => absurd (hsync.mp h.2) (by decide)),
    if_neg (fun h => absurd (htcp.mp h.2) (by decide)), if_pos ⟨hshell,hsh.mpr (by decide)⟩, hcmd]

/-- The daemon of a system that starts shells this way. -/
def shellUv (uv : Uv ω) (sizeofService : ℕ) : Uv ω := { uv with shell := pty.shell sh sizeofService }

/-- shell_service returns what the start-up returns, and loses the handle that the start-up leaves
behind. -/
theorem shell_service_start (uv : Uv ω) (sizeofService : ℕ) (d : Daemon ω) (cmd : List UInt8) :
    let r := pty.shellStart sh sizeofService d.os cmd
    let s := shellService (shellUv pty sh uv sizeofService) d cmd
    s.2.os = r.2.os ∧ (s.1 = none ↔ r.1 ≠ none) ∧
      s.2.log = d.log ++
        if r.1 ≠ none ∧ ∃ k, shellHeld r.2.log = some k ∧ .handle ∈ k then [.handleLost] else [] := by
  intro r s
  obtain ⟨service,fd0,hheld⟩ := shell_start_held pty sh sizeofService d.os cmd
  have hshell : (shellUv pty sh uv sizeofService).shell d.os cmd = (r.2.os,r.1) := rfl
  have hs : s = shellService (shellUv pty sh uv sizeofService) d cmd := rfl
  unfold shellService at hs
  rw [hshell] at hs
  change shellHeld r.2.log = some (ShellExit.leaves service fd0 r.1) at hheld
  rw [hs, hheld]
  generalize r.1 = exit
  cases exit with
  | none => simp [Daemon.setOs]
  | some exit => cases exit <;> simp [ShellExit.leaves, Daemon.setOs, Daemon.emit]

theorem finish_open_shell_spec (s : Option Service) (up : ApacketUv) (d : Daemon ω)
    (params : ServiceParams) : (finishOpen (s,up,d) params).2.2.os = d.os ∧
      ((finishOpen (s,up,d) params).1 = none ↔ s = none) := by
  cases s with
  | none => exact ⟨rfl,iff_of_true rfl rfl⟩
  | some svc => exact ⟨rfl,by simp [finishOpen]⟩

/-- An OPEN of "shell:" and a command starts the configured program with "-c" and this command, or
alone when the command is empty, and opens a service exactly when it runs. Its arguments fill their
block behind the pointers, and nothing else is written to the block. -/
theorem shell_command_run (cfg : Config) (hshell : cfg.shellService = true) (uv : Uv ω)
    (sizeofService : ℕ) (d : Daemon ω) (hid : d.nextServiceId ≠ 0) (up : ApacketUv)
    (cmd : List UInt8) (b : UInt8) (hp : up.p.payload = ascii "shell:" ++ cmd ++ [b])
    (hnul : (0 : UInt8) ∉ cmd) (hcap : up.p.msg.dataLength ≤ up.cap) :
    let r := pty.shellStart sh sizeofService d.os cmd
    let o := adbServiceOpen cfg (shellUv pty sh uv sizeofService) d (terminateName up)
    o.2.2.os = r.2.os ∧ (o.1 = none ↔ r.1 ≠ none) ∧
      (∀ e ∈ r.2.log, e.Runs sh (shellArgs sh cmd)) ∧
      (o.1 ≠ none → ∃ fd, .spawn sh.path (shellArgs sh cmd) fd 0 ∈ r.2.log) ∧
      ∀ addr raw, ∃ n, (setupArgv sh cmd addr raw).mem = store raw n (argvText sh cmd) ∧
        n = sizeofPtr*(setupArgv sh cmd addr raw).args.length ∧
        n+(argvText sh cmd).length = argvSize sh cmd := by
  intro r o
  have ho : o = finishOpen ((shellService (shellUv pty sh uv sizeofService) d cmd).1,
      terminateName up,(shellService (shellUv pty sh uv sizeofService) d cmd).2) (.shell cmd) := by
    change adbServiceOpen cfg _ d (terminateName up) = _
    unfold adbServiceOpen
    rw [if_neg hid, service_name_shell hshell hp hnul hcap]
  obtain ⟨hos,hnone,-⟩ := shell_service_start pty sh uv sizeofService d cmd
  obtain ⟨hfos,hfnone⟩ := finish_open_shell_spec (shellService (shellUv pty sh uv sizeofService) d cmd).1
    (terminateName up) (shellService (shellUv pty sh uv sizeofService) d cmd).2 (.shell cmd)
  rw [← ho] at hfos hfnone
  have hopened : o.1 = none ↔ r.1 ≠ none := hfnone.trans hnone
  refine ⟨hfos.trans hos,hopened,shell_start_runs pty sh sizeofService d.os hnul,fun hsome => ?_,
    fun addr raw => ?_⟩
  · exact shell_start_spawned pty sh sizeofService d.os hnul
      (by_contra fun hexit => hsome (hopened.mpr hexit))
  · obtain ⟨hmem,hsize⟩ := setup_argv_fills sh cmd addr raw
    exact ⟨_,hmem,rfl,hsize⟩

/-- A system on which every call succeeds. -/
def plainPty : Pty Unit where
  malloc s _ := (s, some (0, fun _ => 0))
  free s _ := s
  openpt s := (s, 3)
  grantpt s _ := (s, 0)
  unlockpt s _ := (s, 0)
  openSlave s _ := (s, 4)
  makeRaw s _ := s
  close s _ := s
  pipeInit s := (s, 0)
  pipeOpen s _ := (s, 0)
  spawn s _ _ := (s, 0)

def plainShell : ShellConfig := ⟨ascii "sh",ascii "/bin/sh",by decide⟩

def openLs : ApacketUv :=
  ⟨0,1024,⟨0,⟨aOpen,1,0,9,0,0⟩,store (fun _ => 0) 0 (ascii "shell:ls" ++ [0])⟩⟩

theorem shell_ls_run : ∃ fd,
    ShellEvent.spawn (ascii "/bin/sh") [ascii "sh",ascii "-c",ascii "ls"] fd 0 ∈
      (plainPty.shellStart plainShell 64 () (ascii "ls")).2.log := by
  obtain ⟨-,hopened,-,hspawned,-⟩ := shell_command_run plainPty plainShell defaultConfig rfl plainUv
    64 (daemonStart [] ()) (by decide) openLs (ascii "ls") 0 (by decide) (by decide)
    (by decide)
  refine hspawned (fun hnone => absurd (hopened.mp hnone) ?_)
  decide

end MicroADB
