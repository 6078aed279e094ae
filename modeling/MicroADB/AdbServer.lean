import MicroADB.AdbReceive
import MicroADB.AdbSync
import MicroADB.Ledger
import MicroADB.SharedRun

/-! The tcp server: connections come in at any time, and the clients that it creates take their
callbacks in any order, on one system. -/
namespace MicroADB
open ByteMemory EventRun Ledger SharedRun

/-- What a new connection asks of libuv and of malloc. A return of 0 is a success. -/
structure Listener (ω : Type) where
  /-- A client, with the bytes of its token as they happen to be. -/
  clientMalloc : ω → ω × Option (List UInt8)
  tcpInit : ω → ω × ℤ
  accept : ω → ω × ℤ
  readStart : ω → ω × ℤ

/-- What the server does with the memory of the client k and with the handle in it. -/
inductive ServerEvent
  | connectFailed (status : ℤ)
  | noMemory
  | created (k : ℕ)
  | tcpInit (k : ℕ) (ret : ℤ)
  | accept (k : ℕ) (ret : ℤ)
  | readStart (k : ℕ) (ret : ℤ)
  /-- The handle has finished closing. -/
  | closed (k : ℕ)
  /-- adb_hal_destroy_client -/
  | destroyed (k : ℕ)
deriving DecidableEq, Repr

/-- The process: the clients with the system that they share, and whether one of them has brought it
down. -/
structure Server (ω : Type) where
  clients : System ℕ (Daemon ω) ω
  next : ℕ
  down : Bool
  log : List ServerEvent

inductive ServerInput
  | connection (status : ℤ)
  | client (k : ℕ) (i : Input)

variable {ω : Type} (cfg : Config) (fs : FileSystem ω) (uv : Uv ω) (lis : Listener ω)

namespace Server

def emit (s : Server ω) (e : ServerEvent) : Server ω := { s with log := s.log ++ [e] }

def setEnv (s : Server ω) (os : ω) : Server ω := { s with clients := { s.clients with env := os } }

end Server

/-- A client behind adb_uv_create_client. Its handle is not initialised. -/
def adbUvCreateClient (token : List UInt8) (os : ω) : Daemon ω :=
  { daemonStart token os with socket := UvStream.idle }

/-- exit_close_client -/
def exitCloseClient (s : Server ω) (k : ℕ) (d : Daemon ω) : Server ω :=
  { s with
    clients := s.clients.drop k (adbUvCloseClient cfg fs uv d).os
    log := s.log ++ [.destroyed k] }

/-- A connection that has a client. When it cannot be read its socket is closed, and the client is
destroyed behind that. -/
def serveClient (s : Server ω) (k : ℕ) (token : List UInt8) : Server ω :=
  let r := lis.tcpInit s.clients.env
  let s := (s.setEnv r.1).emit (.tcpInit k r.2)
  if r.2 ≠ 0 then exitCloseClient cfg fs uv s k (adbUvCreateClient token r.1)
  else
    let r := lis.accept r.1
    let s := (s.setEnv r.1).emit (.accept k r.2)
    if r.2 ≠ 0 then exitCloseClient cfg fs uv s k (adbUvCreateClient token r.1)
    else
      let r := lis.readStart r.1
      let s := (s.setEnv r.1).emit (.readStart k r.2)
      let d := adbUvCreateClient token r.1
      let d := d.setSocket (if r.2 ≠ 0 then d.socket.close else d.socket.readStart)
      { s with clients := s.clients.start Daemon.os k d }

def tcpOnConnection (s : Server ω) (status : ℤ) : Server ω :=
  if status < 0 then s.emit (.connectFailed status)
  else
    let r := lis.clientMalloc s.clients.env
    let s := s.setEnv r.1
    match r.2 with
    | none => s.emit .noMemory
    | some token =>
      serveClient cfg fs uv lis ({ s with next := s.next+1 }.emit (.created s.next)) s.next token

/-- A callback of the client k. When the client is destroyed its handle has been closed. -/
def clientCallback (s : Server ω) (k : ℕ) (i : Input) : Server ω :=
  match s.clients.parts k with
  | none => s
  | some d =>
    let d' := step cfg fs uv (d.setOs s.clients.env) i
    { s with
      clients := s.clients.act Daemon.os Daemon.setOs (step cfg fs uv) k i
      down := d'.crashed
      log := s.log ++ if d.gone = false ∧ d'.gone = true then [.closed k,.destroyed k] else [] }

def serverStep (s : Server ω) (i : ServerInput) : Server ω :=
  if s.down then s
  else match i with
    | .connection status => tcpOnConnection cfg fs uv lis s status
    | .client k i => clientCallback cfg fs uv s k i

/-- A server that listens. -/
def serverStart (os : ω) : Server ω := ⟨⟨fun _ => none,os⟩,0,false,[]⟩

def serverRun (os : ω) (is : List ServerInput) : Server ω :=
  run (serverStep cfg fs uv lis) (serverStart os) is

variable {cfg fs uv lis} {s : Server ω} {d : Daemon ω}

/-! The clients. -/

/-- What every client keeps, also when the system or its socket is changed from outside. -/
structure Attended (cfg : Config) (fs : FileSystem ω) (uv : Uv ω) (d : Daemon ω) : Prop where
  syncing : Syncing cfg fs uv d
  receiving : ∃ rest, Receiving cfg d rest

/-- A change of the transport or of the system, without a trace. -/
theorem Syncing.quietly (h : Syncing cfg fs uv d) {d' : Daemon ω} (hq : Quietly d d')
    (hlog : d'.log = d.log) (hw : d'.socket.writes = d.socket.writes) : Syncing cfg fs uv d' := by
  have hkeeps : Keeps cfg fs uv (fun _ _ => True) (Sound cfg uv []) := sound_keeps []
  have hnil : d'.log = d.log ++ [] := hlog.trans (List.append_nil _).symm
  refine ⟨⟨hkeeps.quietly h.flowing.sound hq,?_⟩,?_,fun hg => ?_⟩
  · exact h.flowing.streams.still (hq.beside hnil) hq.heap (by simp)
      (fun up hup => Or.inl (replies_of_socket hw ▸ hup))
  · exact h.synced.beside hq.heap hq.fresh.ge ⟨[],hnil,by simp⟩
  · have hgone := h.emptied (hq.gone ▸ hg)
    exact ⟨hq.closing hgone.closing,fun _ => hq.services.trans (hgone.services (hq.gone ▸ hg))⟩

theorem Attended.quietly (h : Attended cfg fs uv d) {d' : Daemon ω} (hq : Quietly d d')
    (hlog : d'.log = d.log) (hw : d'.socket.writes = d.socket.writes) : Attended cfg fs uv d' := by
  obtain ⟨rest,hr⟩ := h.receiving
  exact ⟨h.syncing.quietly hq hlog hw,rest,hr.aside (Quietly.aside hq) False.elim⟩

theorem Attended.set_os (h : Attended cfg fs uv d) (os : ω) : Attended cfg fs uv (d.setOs os) :=
  h.quietly (quietly_os d os) rfl rfl

theorem Attended.step (h : Attended cfg fs uv d) (i : Input) :
    Attended cfg fs uv (MicroADB.step cfg fs uv d i) := by
  obtain ⟨⟨hf,hs,he⟩,rest,hr⟩ := h
  exact ⟨⟨hf.step i,hs.step i hf.table,gone_emptied_step fs i hf.sound he⟩,hr.callback hf.sound i⟩

/-- A client whose socket is read, or is closed at once. -/
theorem attended_new (cfg : Config) (fs : FileSystem ω) (uv : Uv ω) (token : List UInt8) (os : ω)
    (b : Prop) [Decidable b] : Attended cfg fs uv ((adbUvCreateClient token os).setSocket
      (if b then (adbUvCreateClient token os).socket.close
        else (adbUvCreateClient token os).socket.readStart)) := by
  have hstart : Attended cfg fs uv (daemonStart token os) :=
    ⟨⟨flowing_start cfg uv token os,synced_start token os,fun h => by cases h⟩,
      [],receiving_start token os⟩
  split
  · have hquiet : Quietly (daemonStart token os)
        ((daemonStart token os).setSocket UvStream.idle.close) :=
      quietly_socket _ _ (fun _ => ⟨by simp [UvStream.close],by simp [UvStream.close]⟩)
        (by simp [UvStream.close]) (by simp [UvStream.close])
    exact hstart.quietly hquiet rfl rfl
  · exact hstart

variable (cfg fs uv lis)

theorem connection_clients (status : ℤ) (h : s.clients.All (Attended cfg fs uv)) :
    (tcpOnConnection cfg fs uv lis s status).clients.All (Attended cfg fs uv) := by
  unfold tcpOnConnection
  split
  · exact h
  · dsimp only
    split
    · exact h
    · unfold serveClient
      dsimp only
      split
      · exact System.All.drop h _ _
      · split
        · exact System.All.drop h _ _
        · exact System.All.start h (attended_new cfg fs uv _ _ _) _

theorem server_step_clients (i : ServerInput) (h : s.clients.All (Attended cfg fs uv)) :
    (serverStep cfg fs uv lis s i).clients.All (Attended cfg fs uv) := by
  unfold serverStep
  split
  · exact h
  · cases i with
    | connection status => exact connection_clients cfg fs uv lis status h
    | client k i =>
      dsimp only
      unfold clientCallback
      split
      · exact h
      · exact h.act (fun _ os hp => hp.set_os os) (fun _ i hp => hp.step i) k i

theorem server_clients (os : ω) (is : List ServerInput) :
    (serverRun cfg fs uv lis os is).clients.All (Attended cfg fs uv) :=
  run_invariant _ (fun s : Server ω => s.clients.All (Attended cfg fs uv))
    (fun _ i h => server_step_clients cfg fs uv lis i h) _ (fun _ _ hp => by cases hp) is

/-- What a client can count on, whatever the others do: its bytes are cut into its frames, each of
its sync services serves its requests, and its packets are within the bound. -/
structure ClientHolds (cfg : Config) (d : Daemon ω) : Prop where
  frames : ∃ rest, Receiving cfg d rest
  served : ∀ a, SyncServed cfg d a
  packets : d.live.Nodup ∧ d.live.length ≤ cfg.frameMax ∧ liveAfter d.log = d.live.length
  services : d.crashed = false → Table d

/-- However the connections come in, and in whatever order the clients take their callbacks, each of
them is a client as if it were alone. -/
theorem server_serves (os : ω) (is : List ServerInput) :
    (serverRun cfg fs uv lis os is).clients.All (ClientHolds cfg) := by
  intro k d hd
  obtain ⟨hsyncing,hframes⟩ := server_clients cfg fs uv lis os is k d hd
  have hpool := hsyncing.flowing.sound.pool
  exact ⟨hframes,hsyncing.served,⟨hpool.nodup,hpool.length_le,hpool.count⟩,
    hsyncing.flowing.table⟩

/-! The memory and the handles. -/

inductive ServerRes
  | memory (k : ℕ)
  | handle (k : ℕ)
deriving DecidableEq

namespace ServerEvent

def acquires : ServerEvent → Option ServerRes
  | .created k => some (.memory k)
  | .tcpInit k ret => if ret = 0 then some (.handle k) else none
  | _ => none

def releases : ServerEvent → Option ServerRes
  | .closed k => some (.handle k)
  | .destroyed k => some (.memory k)
  | _ => none

end ServerEvent

namespace Server

/-- The client k has not been destroyed. -/
def Live (s : Server ω) (k : ℕ) : Prop := ∃ d, s.clients.parts k = some d ∧ d.gone = false

/-- uv_accept has failed on the handle of the client k. -/
def Stray (s : Server ω) (k : ℕ) : Prop := ∃ ret, ret ≠ 0 ∧ .accept k ret ∈ s.log

/-- The memory of the clients, their handles, and the handles on which uv_accept failed: nobody
closes these. -/
def Holds (s : Server ω) : ServerRes → Prop
  | .memory k => s.Live k
  | .handle k => s.Live k ∨ s.Stray k

end Server

structure Accounts (s : Server ω) : Prop where
  exact : Exact ServerEvent.acquires ServerEvent.releases s.log s.Holds
  stray : ∀ k, s.Stray k → ¬s.Live k
  fresh : ∀ k, s.next ≤ k → s.clients.parts k = none ∧ ¬s.Stray k

theorem Accounts.not_live (h : Accounts s) : ¬s.Live s.next := by
  rintro ⟨d,hd,_⟩
  rw [(h.fresh _ le_rfl).1] at hd
  cases hd

/-- What a connection does with the memory and the handle of its client. -/
inductive TcpAccepted (s s' : Server ω) : Prop
  | refused (e : ServerEvent) (he : Neutral ServerEvent.acquires ServerEvent.releases e)
      (ha : ∀ k ret, e ≠ .accept k ret) (hlog : s'.log = s.log ++ [e])
      (hparts : s'.clients.parts = s.clients.parts) (hnext : s'.next = s.next)
  | uninitialised (ret : ℤ) (hret : ret ≠ 0)
      (hlog : s'.log = s.log ++ [.created s.next] ++ [.tcpInit s.next ret] ++ [.destroyed s.next])
      (hparts : s'.clients.parts = Function.update s.clients.parts s.next none)
      (hnext : s'.next = s.next+1)
  | stray (ini ret : ℤ) (hini : ini = 0) (hret : ret ≠ 0)
      (hlog : s'.log = s.log ++ [.created s.next] ++ [.tcpInit s.next ini] ++
        [.accept s.next ret] ++ [.destroyed s.next])
      (hparts : s'.clients.parts = Function.update s.clients.parts s.next none)
      (hnext : s'.next = s.next+1)
  | started (ini acc ret : ℤ) (hini : ini = 0) (hacc : acc = 0) (d : Daemon ω)
      (hlog : s'.log = s.log ++ [.created s.next] ++ [.tcpInit s.next ini] ++
        [.accept s.next acc] ++ [.readStart s.next ret])
      (hparts : s'.clients.parts = Function.update s.clients.parts s.next (some d))
      (hnext : s'.next = s.next+1) (hd : d.gone = false)

theorem connection_connected (status : ℤ) :
    TcpAccepted s (tcpOnConnection cfg fs uv lis s status) := by
  unfold tcpOnConnection
  split
  · exact .refused _ ⟨rfl,rfl⟩ (by simp) rfl rfl rfl
  · dsimp only
    split
    · exact .refused _ ⟨rfl,rfl⟩ (by simp) rfl rfl rfl
    · unfold serveClient
      dsimp only
      split
      · rename_i hret
        exact .uninitialised _ hret rfl rfl rfl
      · rename_i hini
        split
        · rename_i hret
          exact .stray _ _ (not_not.mp hini) hret rfl rfl rfl
        · rename_i hacc
          exact .started _ _ _ (not_not.mp hini) (not_not.mp hacc) _ rfl rfl rfl rfl

variable {cfg fs uv lis}

theorem live_update {s' : Server ω} {k : ℕ} {o : Option (Daemon ω)}
    (h : s'.clients.parts = Function.update s.clients.parts k o) (j : ℕ) :
    s'.Live j ↔ if j = k then ∃ d, o = some d ∧ d.gone = false else s.Live j := by
  unfold Server.Live
  rw [h]
  split
  · rename_i hjk
    rw [hjk, Function.update_self]
  · rename_i hjk
    rw [Function.update_of_ne hjk]

theorem stray_append {s' : Server ω} {es : List ServerEvent} (h : s'.log = s.log ++ es) (j : ℕ) :
    s'.Stray j ↔ s.Stray j ∨ ∃ ret, ret ≠ 0 ∧ .accept j ret ∈ es := by
  unfold Server.Stray
  simp only [h, List.mem_append, and_or_left, exists_or]

/-- Only the new client, and its handle only if it was not started. -/
theorem Accounts.next {s' : Server ω} {es : List ServerEvent} {o : Option (Daemon ω)}
    (h : Accounts s) (hlog : s'.log = s.log ++ es)
    (hparts : s'.clients.parts = Function.update s.clients.parts s.next o)
    (hnext : s'.next = s.next+1) (hown : ∀ j ret, .accept j ret ∈ es → j = s.next)
    (hnone : (∃ ret, ret ≠ 0 ∧ .accept s.next ret ∈ es) → o = none)
    (hex : Exact ServerEvent.acquires ServerEvent.releases s'.log s'.Holds) : Accounts s' := by
  refine ⟨hex,fun j hj => ?_,fun j hj => ?_⟩
  · rw [live_update hparts]
    rcases (stray_append hlog j).mp hj with hold | ⟨ret,hret,hmem⟩
    · have hne : j ≠ s.next := by
        rintro rfl
        exact (h.fresh _ le_rfl).2 hold
      rw [if_neg hne]
      exact h.stray j hold
    · obtain rfl := hown j ret hmem
      rw [if_pos rfl, hnone ⟨ret,hret,hmem⟩]
      rintro ⟨_,hd,_⟩
      cases hd
  · have hne : j ≠ s.next := by omega
    obtain ⟨hp,hs⟩ := h.fresh j (by omega)
    refine ⟨by rw [hparts, Function.update_of_ne hne, hp],fun hj => ?_⟩
    rcases (stray_append hlog j).mp hj with hold | ⟨ret,_,hmem⟩
    · exact hs hold
    · exact hne (hown j ret hmem)

theorem Accounts.connected (h : Accounts s) {s' : Server ω} (hc : TcpAccepted s s') :
    Accounts s' := by
  have hlive := h.not_live
  have hstray := (h.fresh s.next le_rfl).2
  have hmemory : Exact ServerEvent.acquires ServerEvent.releases (s.log ++ [.created s.next])
      (fun x => x = .memory s.next ∨ s.Holds x) :=
    h.exact.acquire rfl hlive (fun _ => Iff.rfl)
  cases hc with
  | refused e he ha hlog hparts hnext =>
    have hl (j : ℕ) : s'.Live j ↔ s.Live j := by rw [Server.Live, hparts, Server.Live]
    have hs (j : ℕ) : s'.Stray j ↔ s.Stray j := by
      rw [stray_append hlog]
      refine or_iff_left ?_
      rintro ⟨ret,_,hmem⟩
      exact ha j ret (List.mem_singleton.mp hmem).symm
    refine ⟨?_,fun j hj => ?_,fun j hj => ?_⟩
    · rw [hlog]
      refine h.exact.pass he (fun x => ?_)
      cases x with
      | memory j => exact hl j
      | handle j => exact or_congr (hl j) (hs j)
    · rw [hl]
      exact h.stray j ((hs j).mp hj)
    · rw [hparts, hs]
      exact h.fresh j (hnext ▸ hj)
  | uninitialised ret hret hlog hparts hnext =>
    have hlog' : s'.log = s.log ++ [.created s.next,.tcpInit s.next ret,.destroyed s.next] := by
      simp [hlog]
    have hl (j : ℕ) : s'.Live j ↔ s.Live j := by grind [live_update]
    have hs (j : ℕ) : s'.Stray j ↔ s.Stray j := by simp [stray_append hlog']
    refine h.next hlog' hparts hnext (by simp) (by simp) ?_
    rw [hlog]
    have hinit := hmemory.pass (e := .tcpInit s.next ret)
      ⟨by simp [ServerEvent.acquires, hret],rfl⟩ (fun _ => Iff.rfl)
    refine hinit.release (r := .memory s.next) rfl rfl (Or.inl rfl) (fun x => ?_)
    cases x with
    | memory j => grind [Server.Holds]
    | handle j => grind [Server.Holds]
  | stray ini ret hini hret hlog hparts hnext =>
    subst hini
    have hlog' : s'.log = s.log ++ [.created s.next,.tcpInit s.next 0,.accept s.next ret,
        .destroyed s.next] := by
      simp [hlog]
    have hl (j : ℕ) : s'.Live j ↔ s.Live j := by grind [live_update]
    have hs (j : ℕ) : s'.Stray j ↔ j = s.next ∨ s.Stray j := by
      rw [stray_append hlog']
      simp [hret, or_comm]
    refine h.next hlog' hparts hnext (by simp) (by simp) ?_
    rw [hlog]
    have hinit := hmemory.acquire (e := .tcpInit s.next 0) (r := .handle s.next) rfl
      (by simp [Server.Holds, hlive, hstray]) (fun _ => Iff.rfl)
    have haccept := hinit.pass (e := .accept s.next ret) ⟨rfl,rfl⟩ (fun _ => Iff.rfl)
    refine haccept.release (r := .memory s.next) rfl rfl (Or.inr (Or.inl rfl)) (fun x => ?_)
    cases x with
    | memory j => grind [Server.Holds]
    | handle j => grind [Server.Holds]
  | started ini acc ret hini hacc d hlog hparts hnext hd =>
    subst hini hacc
    have hlog' : s'.log = s.log ++ [.created s.next,.tcpInit s.next 0,.accept s.next 0,
        .readStart s.next ret] := by
      simp [hlog]
    have hl (j : ℕ) : s'.Live j ↔ j = s.next ∨ s.Live j := by grind [live_update]
    have hs (j : ℕ) : s'.Stray j ↔ s.Stray j := by
      rw [stray_append hlog']
      simp
    refine h.next hlog' hparts hnext (by simp) (by simp) ?_
    rw [hlog]
    have hinit := hmemory.acquire (e := .tcpInit s.next 0) (r := .handle s.next) rfl
      (by simp [Server.Holds, hlive, hstray]) (fun _ => Iff.rfl)
    have haccept := hinit.pass (e := .accept s.next 0) ⟨rfl,rfl⟩ (fun _ => Iff.rfl)
    refine haccept.pass ⟨rfl,rfl⟩ (fun x => ?_)
    cases x with
    | memory j => grind [Server.Holds]
    | handle j => grind [Server.Holds]

/-- A client that was destroyed stays so. -/
theorem gone_step (fs : FileSystem ω) (i : Input) (hs : Sound cfg uv [] d) (hg : d.gone = true) :
    (step cfg fs uv d i).gone = true := by
  by_cases hi : i = .transportClosed
  · subst hi
    have hstill : step cfg fs uv d .transportClosed = d := by simp [step, hg]
    rw [hstill, hg]
  · rw [step_gone i hs hi, hg]

theorem Accounts.callback (fs : FileSystem ω) (h : Accounts s)
    (hall : s.clients.All (Attended cfg fs uv)) (k : ℕ) (i : Input) :
    Accounts (clientCallback cfg fs uv s k i) := by
  unfold clientCallback
  split
  · exact h
  · rename_i d hd
    have hsound := ((hall k d hd).set_os s.clients.env).syncing.flowing.sound
    have hgone (hg : d.gone = true) := gone_step fs i hsound hg
    set d' := step cfg fs uv (d.setOs s.clients.env) i with hd'
    set es : List ServerEvent := if d.gone = false ∧ d'.gone = true then [.closed k,.destroyed k]
      else [] with hes
    dsimp only
    set s' : Server ω := ⟨s.clients.act Daemon.os Daemon.setOs (step cfg fs uv) k i,s.next,
      d'.crashed,s.log ++ es⟩ with hs'
    have hparts : s'.clients.parts = Function.update s.clients.parts k (some d') := by
      simp [hs', System.act, hd, hd']
    have hlog : s'.log = s.log ++ es := rfl
    have hs (j : ℕ) : s'.Stray j ↔ s.Stray j := by
      rw [stray_append hlog]
      refine or_iff_left ?_
      rintro ⟨ret,_,hmem⟩
      rw [hes] at hmem
      split at hmem <;> simp at hmem
    have hl (j : ℕ) : s'.Live j ↔ s.Live j ∧ (j = k → d'.gone = false) := by
      rw [live_update hparts]
      unfold Server.Live
      by_cases hjk : j = k
      · subst hjk
        simp only [if_pos, hd, Option.some.injEq, exists_eq_left']
        cases hg : d.gone <;> simp_all
      · simp [hjk]
    refine ⟨?_,fun j hj hlj => h.stray j ((hs j).mp hj) ((hl j).mp hlj).1,fun j hj => ?_⟩
    · by_cases hnow : d.gone = false ∧ d'.gone = true
      · have hlog' : s'.log = s.log ++ [.closed k] ++ [.destroyed k] := by
          simp [hlog, hes, hnow]
        have hlive : s.Live k := ⟨d,hd,hnow.1⟩
        have hmemory : s.Holds (.memory k) := hlive
        rw [hlog']
        have hclosed : Exact ServerEvent.acquires ServerEvent.releases (s.log ++ [.closed k])
            (fun x => x ≠ .handle k ∧ s.Holds x) :=
          h.exact.release rfl rfl (Or.inl hlive) (fun _ => Iff.rfl)
        refine hclosed.release (r := .memory k) rfl rfl ⟨by simp,hmemory⟩ (fun x => ?_)
        have hst := h.stray
        cases x with
        | memory j => grind [Server.Holds]
        | handle j => grind [Server.Holds]
      · have hnil : s'.log = s.log := by simp [hlog, hes, hnow]
        have hsame (j : ℕ) : s'.Live j ↔ s.Live j := by
          rw [hl]
          refine and_iff_left_of_imp (fun hlj hjk => ?_)
          obtain ⟨e,he,hg⟩ := hjk ▸ hlj
          obtain rfl := Option.some.inj (hd.symm.trans he)
          simpa [hg] using hnow
        rw [hnil]
        refine h.exact.congr (fun x => ?_)
        cases x with
        | memory j => exact hsame j
        | handle j => exact or_congr (hsame j) (hs j)
    · obtain ⟨hp,hst⟩ := h.fresh j hj
      have hne : j ≠ k := by
        rintro rfl
        rw [hd] at hp
        cases hp
      exact ⟨by rw [hparts, Function.update_of_ne hne, hp],fun hj => hst ((hs j).mp hj)⟩

theorem Accounts.server_step (fs : FileSystem ω) (lis : Listener ω) (h : Accounts s)
    (hall : s.clients.All (Attended cfg fs uv)) (i : ServerInput) :
    Accounts (serverStep cfg fs uv lis s i) := by
  unfold serverStep
  split
  · exact h
  · cases i with
    | connection status => exact h.connected (connection_connected cfg fs uv lis status)
    | client k i => exact h.callback fs hall k i

theorem accounts_start (os : ω) : Accounts (serverStart os) where
  exact := exact_nil (fun x => by
    cases x <;> simp [Server.Holds, Server.Live, Server.Stray, serverStart])
  stray k hk := by simp [Server.Stray, serverStart] at hk
  fresh k _ := ⟨rfl,by simp [Server.Stray, serverStart]⟩

/-- Nothing is released twice or used after: at any time the server holds the memory of the clients
that are not destroyed, and their handles. A handle is lost, with the memory around it released,
exactly when uv_accept fails on it. -/
theorem server_holds (cfg : Config) (fs : FileSystem ω) (uv : Uv ω) (lis : Listener ω) (os : ω)
    (is : List ServerInput) :
    let s := serverRun cfg fs uv lis os is
    Exact ServerEvent.acquires ServerEvent.releases s.log s.Holds ∧
      ∀ k, s.Stray k → ¬s.Live k := by
  have hrun := run_invariant (serverStep cfg fs uv lis)
    (fun s : Server ω => s.clients.All (Attended cfg fs uv) ∧ Accounts s)
    (fun _ i h => ⟨server_step_clients cfg fs uv lis i h.1,h.2.server_step fs lis h.1 i⟩) _
    ⟨(fun _ _ hp => by cases hp),accounts_start os⟩ is
  exact ⟨hrun.2.exact,hrun.2.stray⟩

end MicroADB
