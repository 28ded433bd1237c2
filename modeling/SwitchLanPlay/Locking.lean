import SwitchLanPlay.LockOrder
/-!
# Locking — the sysmodule's threads and the locks they take (source/main.cpp and the files under it)

Every function is what it does with the mutexes and the threads, in the order of its body; the rest of it is left out, and what
decides a branch with it.  A call that takes no lock is `skip`.  `scoped_lock` is a scope that holds its mutex, and `WaitThread`
waits for what the thread holds from its start on.

`DrainThreadMain` says which order the locks have: the virtual TCP state's before the relay's.  With the relay's before the
selection's, the pump thread's and its queue's, and the log's and the heap's after all others, no thread ever waits for itself
through others, whatever the interleaving, and every thread that waits does so for one that can go on (`never_deadlocks`).
-/
namespace Slp
namespace Locking

open LockOrder
open LockOrder.Prog (all opt anyOf join)

/-- The mutexes, and the threads that `WaitThread` waits for. -/
inductive Lock where
  | mitmThread
  | vtcp
  | relay
  | config
  | pumpThread
  | queue
  | controlQueue
  | dummySkip
  | fileLog
  | heapInit
deriving DecidableEq

abbrev Code := Prog Lock

def skip : Code := .skip

/-! ## main.cpp, the heap -/

/-- The heap is made on its first use. -/
def getHeapHandle : Code := opt (.holding .heapInit skip)

/-- `Allocate` and `Deallocate`: `new`, `delete` and every call of the file system. -/
def allocs : Code := .loop getHeapHandle

/-! ## debug.cpp -/

/-- `LogStr` under `g_file_log_lock`, if logging is on. -/
def logFormat : Code := opt (.holding .fileLog allocs)

/-! ## relay_bridge.hpp -/

namespace RelayBridge

/-- The drain of the socket into the ring, pass after pass. -/
def pumpLoop : Code := .loop (.loop (.holding .queue skip))

def startPump : Code := opt (.spawn (some .pumpThread) pumpLoop)

def stopPump : Code := opt (join .pumpThread)

/-- The socket's own calls come before the pump. -/
def connect : Code := opt startPump

def close : Code := all [stopPump, .holding .queue skip]

def sendIpv4 : Code := skip

def popIpv4 : Code := .holding .queue skip

end RelayBridge

/-! ## cfg/runtime_cfg.cpp -/

namespace RuntimeCfg

/-- The two files are read through the file system. -/
def reloadServers : Code := .holding .config (all [allocs, logFormat, allocs])

/-- `PersistSelection` logs when it fails. -/
def selectServer : Code := .holding .config (opt (all [allocs, opt logFormat, allocs, opt logFormat]))

def getSelectedIndex : Code := .holding .config skip

def getSelectedHostPort : Code := .holding .config skip

end RuntimeCfg

/-! ## bsd/bsd_bridge_service.cpp, below the commands -/

def ensureSocketStack : Code := opt (.loop logFormat)

def watchdogThreadMain : Code := .loop (.holding .relay (opt (all [logFormat, RelayBridge.close])))

def ensureWatchdogStarted : Code := opt (.spawn none watchdogThreadMain)

def sendTcpSegment : Code := RelayBridge.sendIpv4

def checkDataRetransmits : Code := .loop (anyOf [logFormat, all [sendTcpSegment, logFormat]])

def handleTcpSegment : Code := .loop (anyOf [logFormat, all [sendTcpSegment, logFormat]])

/-- The owner is read under the relay's lock and used after it. -/
def drainRawRelayQueue : Code :=
  all [.holding .relay skip, opt (.holding .vtcp checkDataRetransmits),
    .loop (all [RelayBridge.popIpv4,
      anyOf [.holding .controlQueue skip, all [.holding .relay skip, opt (.holding .vtcp handleTcpSegment)]]]),
    RelayBridge.popIpv4]

def drainRelay : Code := drainRawRelayQueue

def drainThreadMain : Code := .loop (all [drainRawRelayQueue, .holding .relay skip, opt drainRelay])

def ensureDrainThreadStarted : Code := opt (.spawn none drainThreadMain)

/-- Its callers hold the relay's lock. -/
def connectRelayLocked : Code :=
  all [ensureSocketStack, ensureWatchdogStarted, ensureDrainThreadStarted, RuntimeCfg.getSelectedHostPort,
    RelayBridge.connect, logFormat]

def ensureRelayConnected : Code := .holding .relay (opt connectRelayLocked)

def isRelayConnected : Code := .holding .relay skip

def isRelayEnabled : Code := .holding .relay skip

def getLocalIp : Code := .holding .relay skip

def getRealIp : Code := .holding .relay ensureSocketStack

def forceReconnect : Code := .holding .relay (all [RelayBridge.close, connectRelayLocked])

def stop : Code := .holding .relay (all [RelayBridge.close, logFormat])

def start : Code := .holding .relay (all [opt connectRelayLocked, logFormat])

/-! ## bsd/bsd_bridge_service.cpp, sessions and commands -/

def shouldMitm : Code := anyOf [logFormat, all [.holding .dummySkip (opt logFormat), opt logFormat]]

/-- `~BsdBridgeService`, and the memory of the instance. -/
def destroy : Code := all [.holding .relay skip, .holding .dummySkip skip, allocs]

def registerClient : Code := logFormat

def socket : Code := logFormat

def vfdHasPendingRead : Code := anyOf [.holding .controlQueue skip, .holding .vtcp skip]

/-- A call of another shape than expected is forwarded. -/
def select : Code := all [drainRelay, opt (all [.loop (.holding .vtcp skip), .loop vfdHasPendingRead, .loop vfdHasPendingRead])]

def poll : Code :=
  all [drainRelay, logFormat,
    opt (all [.loop (.holding .vtcp skip), .loop vfdHasPendingRead, opt logFormat, .loop (all [vfdHasPendingRead, opt logFormat])])]

def bind : Code :=
  opt (all [opt logFormat,
    opt (all [opt (all [ensureSocketStack, opt logFormat]), .holding .relay skip,
      opt (all [logFormat, .holding .relay skip, ensureRelayConnected])])])

/-- The virtual branch connects the relay with the lock of its state in hand. -/
def sendTo : Code :=
  all [.holding .vtcp (opt (all [opt ensureRelayConnected, opt (all [sendTcpSegment, logFormat, opt logFormat])])),
    opt (all [ensureRelayConnected, opt (all [RelayBridge.sendIpv4, logFormat, .loop logFormat])])]

def recvFrom : Code :=
  all [drainRelay, .holding .vtcp (opt logFormat), opt (all [.holding .controlQueue skip, .loop logFormat])]

def close : Code :=
  all [.holding .vtcp (all [opt (all [opt sendTcpSegment, logFormat]), opt logFormat]),
    opt (all [logFormat, .holding .relay (opt RelayBridge.close)])]

def accept : Code := opt (all [drainRelay, .holding .vtcp (opt logFormat)])

/-- The command `Connect`. -/
def connect : Code :=
  opt (all [ensureRelayConnected, opt (all [.holding .vtcp skip, opt (all [logFormat,
    .loop (all [sendTcpSegment, .loop (all [drainRelay, .holding .vtcp skip])]),
    anyOf [.holding .vtcp logFormat, logFormat]])])])

def listen : Code := opt (.holding .vtcp logFormat)

/-- The commands that only forward. -/
def forward : Code := skip

def commands : List Code :=
  [registerClient, socket, select, poll, bind, sendTo, recvFrom, close, accept, connect, listen, forward]

/-! ## cfg/cfg_service.cpp -/

namespace ConfigService

def getVersion : Code := skip

def getState : Code :=
  all [isRelayConnected, isRelayEnabled, RuntimeCfg.getSelectedIndex, RuntimeCfg.getSelectedHostPort, getLocalIp, getRealIp]

def selectServer : Code := RuntimeCfg.selectServer

def reload : Code := RuntimeCfg.reloadServers

def reconnect : Code := forceReconnect

def commands : List Code := [getVersion, getState, selectServer, reload, reconnect, start, stop]

end ConfigService

/-! ## main.cpp, the threads -/

def onNeedsToAccept : Code := all [allocs, logFormat, allocs, opt destroy, logFormat]

/-- Sessions are opened, served and closed. -/
def loopServerThread : Code := .loop (anyOf (allocs :: onNeedsToAccept :: destroy :: commands))

/-- The framework's thread that asks which sessions are to be intercepted. -/
def mitmQueries : Code := .loop shouldMitm

def loopConfigServerThread : Code := .loop (anyOf (allocs :: ConfigService.commands))

/-- The log file, the two services and their threads. -/
def main : Code :=
  all [allocs, logFormat, .spawn none mitmQueries, logFormat, .spawn (some .mitmThread) loopServerThread,
    RuntimeCfg.reloadServers, allocs, .spawn none loopConfigServerThread, logFormat, join .mitmThread]

/-! ## The order of the locks -/

def rank : Lock → Nat
  | .mitmThread => 0
  | .vtcp => 1
  | .relay => 2
  | .config => 3
  | .pumpThread => 3
  | .queue => 4
  | .controlQueue => 4
  | .dummySkip => 4
  | .fileLog => 5
  | .heapInit => 6

/-- The code that a thread can be at the start of. -/
def entries : List Code :=
  [main, mitmQueries, loopServerThread, loopConfigServerThread, watchdogThreadMain, drainThreadMain]

theorem entries_ordered : ∀ p ∈ entries, p.Ordered rank 0 := by decide

/-- Any number of threads, each at the start of its code. -/
def Fresh (P : Pool Lock) : Prop := ∀ t ∈ P, ∃ p ∈ entries, t = started none p

theorem Fresh.ordered {P : Pool Lock} (h : Fresh P) : PoolOrdered rank P := by
  intro t ht
  obtain ⟨p, hp, rfl⟩ := h t ht
  exact threadOrdered_started (entries_ordered p hp)

/-- **No deadlock**: from any threads at the start of their code, whatever steps they take in whatever order, none waits for
itself through others, and each that has not ended waits for one that can go on, or can go on itself. -/
theorem never_deadlocks {P₀ P : Pool Lock} (hfresh : Fresh P₀) (h : Relation.ReflTransGen Next P₀ P) :
    (∀ i, ¬ Relation.TransGen (WaitsFor P) i i) ∧
    ∀ i t, P[i]? = some t → t ≠ [] → ∃ j, Relation.ReflTransGen (WaitsFor P) i j ∧ CanStep P j := by
  have hP : PoolOrdered rank P := reachable_ordered h hfresh.ordered
  exact ⟨not_circular hP, fun i t hi ht => awaits_runnable hP hi ht⟩

/-- The watchdog, the server's thread and the drain thread. -/
def threeThreads : Pool Lock :=
  [started none watchdogThreadMain, started none loopServerThread, started none drainThreadMain]

/-- The drain thread comes to the lock of the virtual TCP state, which the server's thread holds in a `SendTo` that comes to
the relay's lock, which the watchdog holds. -/
def contended : List (Nat × Bool) :=
  List.replicate 8 (2, true) ++ List.replicate 9 (1, true) ++ (1, false) :: List.replicate 5 (1, true) ++
    List.replicate 2 (0, true)

theorem never_deadlocks_contended : ∃ P, schedule threeThreads contended = some P ∧ WaitsFor P 2 1 ∧ WaitsFor P 1 0 ∧
    (∀ i, ¬ Relation.TransGen (WaitsFor P) i i) ∧
    ∀ i t, P[i]? = some t → t ≠ [] → ∃ j, Relation.ReflTransGen (WaitsFor P) i j ∧ CanStep P j := by
  have hfresh : Fresh threeThreads := by
    intro t ht
    simp only [threeThreads, List.mem_cons, List.not_mem_nil, or_false] at ht
    rcases ht with rfl | rfl | rfl
    · exact ⟨watchdogThreadMain, by simp [entries], rfl⟩
    · exact ⟨loopServerThread, by simp [entries], rfl⟩
    · exact ⟨drainThreadMain, by simp [entries], rfl⟩
  obtain ⟨P, hP⟩ : ∃ P, schedule threeThreads contended = some P := ⟨_, rfl⟩
  have hsafe := never_deadlocks hfresh (reachable_of_schedule hP)
  refine ⟨P, hP, ?_, ?_, hsafe⟩
  · cases hP
    exact ⟨_, _, _, _, rfl, rfl, holds_iff.1 rfl⟩
  · cases hP
    exact ⟨_, _, _, _, rfl, rfl, holds_iff.1 rfl⟩

end Locking
end Slp
