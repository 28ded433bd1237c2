import SwitchLanPlay.Drain
import SwitchLanPlay.Runs
/-!
# Commands — the bsd:u commands of an instance (source/bsd/bsd_bridge_service.cpp, source/bsd/interfaces/ibsd_mitm_service.hpp)

A request forwarded to the real service is itself a command, with the arguments it is dispatched with, and `Env.real` is
what the real service answers.  `Console.command` is one command of one instance: the requests it forwards, its reply, the
state it leaves, and what it sends over the relay.  Registering a client and the commands without a handler of their own
forward and do nothing else.
-/
namespace Slp

open Wire

/-! ## Arguments and replies -/

def POLLIN : UInt16 := 0x0001
def POLLPRI : UInt16 := 0x0002
def POLLOUT : UInt16 := 0x0004
def POLLERR : UInt16 := 0x0008
def POLLHUP : UInt16 := 0x0010
def POLLNVAL : UInt16 := 0x0020

/-- `struct pollfd`. -/
structure PollFd where
  fd : Int := 0
  events : UInt16 := 0
  revents : UInt16 := 0
deriving DecidableEq

/-- The buffer of an `fd_set`: its 32-bit words, and the descriptors whose bits are set. -/
structure FdSet where
  words : Nat := 0
  has : Nat → Bool := fun _ => false

/-- The bit of a descriptor that lies inside the buffer. -/
def FdSet.mem (set : FdSet) (fd : Nat) : Bool := decide (fd < 32 * set.words) && set.has fd

structure SelectTimeval where
  tvSec : Int
  tvUsec : Int
  isNull : Bool

/-- The commands the interface declares, with what the client sends; an output buffer is its size, one of pollfds or of
fd_set words is counted in these. -/
inductive Command where
  | registerClient (config : Bytes) (tmemSize : UInt64)
  | socket (domain type protocol : Int)
  | socketExempt (domain type protocol : Int)
  | open (flags : Int) (path : Bytes)
  | select (nfds : Int) (timeout : SelectTimeval) (readIn writeIn errorIn : FdSet) (readOut writeOut errorOut : Nat)
  | poll (fds : List PollFd) (fdsOut : Nat) (nfds timeout : Int)
  | sysctl (name newVal : Bytes) (oldVal : Nat)
  | recv (fd flags : Int) (buffer : Nat)
  | recvFrom (fd flags : Int) (buffer addrOut : Nat)
  | send (fd flags : Int) (buffer : Bytes)
  | sendTo (fd flags : Int) (buffer addr : Bytes)
  | accept (fd : Int) (addrOut : Nat)
  | bind (fd : Int) (addr : Bytes)
  | connect (fd : Int) (addr : Bytes)
  | getPeerName (fd : Int) (addrOut : Nat)
  | getSockName (fd : Int) (addrOut : Nat)
  | getSockOpt (fd level optname : Int) (optval : Nat)
  | listen (fd backlog : Int)
  | ioctl (fd : Int) (request bufcount : UInt32) (bufIn : List Bytes) (bufOut : List Nat)
  | fcntl (fd cmd arg : Int)
  | setSockOpt (fd level optname : Int) (optval : Bytes)
  | shutdown (fd how : Int)
  | shutdownAllSockets (how : Int)
  | write (fd : Int) (buffer : Bytes)
  | read (fd : Int) (buffer : Nat)
  | close (fd : Int)
  | duplicateSocket (fd : Int) (targetPid : UInt64)
  | getResourceStatistics (pid : UInt64) (outStats : Nat)
  | recvMMsg (fd vlen flags timeout : Int) (outData : Nat)
  | sendMMsg (fd vlen flags : Int) (inData : Bytes)
  | eventFd (initval : UInt64) (flags : Int)
  | registerResourceStatisticsName (pid : UInt64) (name : Bytes)
  | registerClientShared (config : Bytes) (tmemSize : UInt64)

/-- A reply: the result code, `ret` and `errno`, the extra output word of some commands, and the output buffers. -/
structure Answer where
  rc : UInt32 := 0
  ret : Int := 0
  err : Int := 0
  extra : Nat := 0
  out : List Bytes := []
  pollfds : List PollFd := []
  readfds : FdSet := {}
  writefds : FdSet := {}
  errorfds : FdSet := {}

def Errno.code : Errno → Int
  | none => 0
  | EIO => 5
  | EWOULDBLOCK => 11
  | ENOBUFS => 105
  | ETIMEDOUT => 116
  | EMSGSIZE => 122

def Answer.ofErrno (ret : Int) (e : Errno) : Answer where
  ret := ret
  err := e.code

/-- The address and port of a full `sockaddr_in`. -/
def sockaddrIn? (addr : Bytes) : Option (UInt32 × UInt16) :=
  if addr.length < RecvFromOut.sockaddrSize then none
  else some (read32 (byteAt addr 4) (byteAt addr 5) (byteAt addr 6) (byteAt addr 7), read16 (byteAt addr 2) (byteAt addr 3))

def AF_INET : UInt8 := 2

def sockaddrBytes (ip : UInt32) (port : UInt16) : Bytes := [0, AF_INET] ++ be16 port ++ be32 ip ++ List.replicate 8 0

/-- The reply of a `RecvFrom` answered here. -/
def RecvFromOut.answer (r : RecvFromOut) : Answer where
  ret := r.ret
  err := r.errno.code
  extra := r.addrlen
  out := [r.payload, (r.src.elim [] (fun a => sockaddrBytes a.1 a.2)).take r.addrlen]

/-- What a command meets: the real service, nifm's address (0 for none), the relay, the clock, the random initial sequence
number, the packets its drain pops, and those each 20 ms wait of a `Connect` pops. -/
structure Env where
  real : Command → Answer
  nifmIp : UInt32
  relayUp : Bool
  relayOk : Bool
  now : UInt64
  ourIsn : UInt32
  drained : Drained
  waits : Nat → Drained

/-- A datagram for the relay; its packet is `udpPacket?` of these. -/
structure UdpSend where
  srcIp : UInt32
  dstIp : UInt32
  srcPort : UInt16
  dstPort : UInt16
  payload : Bytes
deriving DecidableEq

/-- What a command does. -/
structure Outcome where
  console : Console
  reply : Answer
  requests : List Command := []
  segs : List Segment := []
  udp : List UdpSend := []

def Env.forward (env : Env) (C : Console) (c : Command) : Outcome where
  console := C
  reply := env.real c
  requests := [c]

def Instance.bridgedPending (s : Instance) (q : ControlQueue) : Bool :=
  q.packets.any (fun p => p.dstPort == s.bridgedLocalPort)

namespace Console

/-! ## Readiness -/

section Readiness

variable (C : Console) (i : Nat) (s : Instance) (env : Env)

def vfdHasPendingRead (pollFd : Int) : Bool :=
  if pollFd < 0 then false
  else if pollFd = s.bridgedFd then s.bridgedPending C.controlQueue
  else if C.service.vtcp.isOwnTcpListenFd (C.service.owns i) pollFd then
    (SlotTable.first (fun p => p.used && p.gotFinalAck) C.service.vtcp.pendingAccepts).isSome
  else
    (C.service.vtcp.findVTcpConnByFd (C.service.owns i) pollFd).any (fun k =>
      decide (0 < (C.service.vtcp.conns k).inbox.size) || (C.service.vtcp.conns k).peerClosed)

def maxPollFds : Nat := 32

/-- The shape of the buffers a `Poll` handles itself. -/
def pollWellShaped (fds : List PollFd) (fdsOut : Nat) (nfds : Int) : Bool :=
  decide (0 ≤ nfds) && decide (nfds.toNat ≤ maxPollFds) && decide (nfds.toNat ≤ fds.length) && decide (nfds.toNat ≤ fdsOut)

/-- The errors of the real control socket are swallowed. -/
def maskRevents (fd : Int) (revents : UInt16) : UInt16 :=
  if fd == s.bridgedFd && s.bridgedLocalPort == ldnControlPort then revents &&& ~~~(POLLERR ||| POLLHUP ||| POLLNVAL)
  else revents

/-- The real answer, which has an entry for each forwarded descriptor, put back into the client's order. -/
def copyBack (synthetic : Int → Bool) (mask : Int → UInt16 → UInt16) : List PollFd → List PollFd → List PollFd
  | [], _ => []
  | p :: ps, outs =>
    if synthetic p.fd then { p with revents := 0 } :: copyBack synthetic mask ps outs
    else { p with revents := mask p.fd (outs.headD {}).revents } :: copyBack synthetic mask ps outs.tail

/-- An entry that is not readable or in error yet and has data waiting here. -/
def injects (pending : Int → Bool) (p : PollFd) : Bool :=
  p.revents &&& (POLLIN ||| POLLPRI ||| POLLERR ||| POLLHUP ||| POLLNVAL) == 0 && pending p.fd

def injectPollin (pending : Int → Bool) (p : PollFd) : PollFd :=
  if injects pending p then { p with revents := p.revents ||| POLLIN } else p

/-- The request a well-shaped `Poll` forwards, the relay drained: the descriptors of the real service. -/
def pollRequest (polled : List PollFd) (timeout : Int) : Command :=
  let forwardIn := polled.filter (fun p => !C.service.isSynthetic i p.fd)
  .poll forwardIn forwardIn.length forwardIn.length (if polled.any (fun p => C.vfdHasPendingRead i s p.fd) then 0 else timeout)

/-- The reply of a well-shaped `Poll` to the real answer. -/
def pollReply (polled : List PollFd) (ans : Answer) : Answer :=
  let out := copyBack (C.service.isSynthetic i) (maskRevents s) polled (if 0 < ans.ret then ans.pollfds else [])
  let pending := C.vfdHasPendingRead i s
  { ret := out.countP (fun p => p.revents != 0) + out.countP (injects pending)
    err := ans.err
    pollfds := out.map (injectPollin pending) }

def poll (fds : List PollFd) (fdsOut : Nat) (nfds timeout : Int) : Outcome :=
  let (C', segs) := C.drainRawRelayQueue env.drained
  if !pollWellShaped fds fdsOut nfds then { env.forward C' (.poll fds fdsOut nfds timeout) with segs := segs }
  else
    let polled := fds.take nfds.toNat
    if polled.all (fun p => C'.service.isSynthetic i p.fd) then
      { console := C', reply := C'.pollReply i s polled {}, segs := segs }
    else
      let request := C'.pollRequest i s polled timeout
      { console := C', reply := C'.pollReply i s polled (env.real request), requests := [request], segs := segs }

def maxSelectFds : Int := 1024

def selectWords (nfds : Int) : Nat := if 0 < nfds ∧ nfds ≤ maxSelectFds then (nfds.toNat + 31) / 32 else 0

/-- The shape of the buffers a `Select` handles itself. -/
def selectWellShaped (nfds : Int) (readIn : FdSet) (readOut : Nat) : Bool :=
  decide (selectWords nfds ≠ 0) && decide (selectWords nfds ≤ readIn.words) && decide (selectWords nfds ≤ readOut)

/-- The read set that is forwarded: the caller's first words without the synthetic descriptors. -/
def forwardReadfds (nfds : Int) (readIn : FdSet) : FdSet where
  words := selectWords nfds
  has fd := readIn.has fd && !(decide ((fd : Int) < nfds) && C.service.isSynthetic i fd)

/-- The request a well-shaped `Select` forwards, the relay drained. -/
def selectRequest (nfds : Int) (timeout : SelectTimeval) (readIn writeIn errorIn : FdSet)
    (readOut writeOut errorOut : Nat) : Command :=
  .select nfds
    (if (List.range nfds.toNat).any (fun fd => C.vfdHasPendingRead i s fd) then ⟨0, 0, false⟩ else timeout)
    (C.forwardReadfds i nfds readIn) writeIn errorIn readOut writeOut errorOut

/-- Set the bit of a descriptor with data waiting here, and count it. -/
def injectReadfd (readOut : Nat) (acc : FdSet × Int) (fd : Int) : FdSet × Int :=
  if fd < 0 ∨ C.vfdHasPendingRead i s fd = false then acc
  else if readOut < fd.toNat / 32 + 1 then acc
  else if acc.1.has fd.toNat then acc
  else ({ acc.1 with has := fun f => acc.1.has f || f == fd.toNat }, if 0 ≤ acc.2 then acc.2 + 1 else acc.2)

/-- The descriptors a `Select` answers for. -/
def injectedFds : List Int :=
  s.bridgedFd ::
    if C.service.owns i then
      C.service.vtcp.tcpListenFd ::
        ((List.finRange maxVTcpConns).filter (fun k => (C.service.vtcp.conns k).used)).map (fun k => (C.service.vtcp.conns k).fd)
    else []

def selectReply (readOut : Nat) (ans : Answer) : Answer :=
  let (readfds, count) := (C.injectedFds i s).foldl (C.injectReadfd i s readOut) (ans.readfds, ans.ret)
  { ans with ret := count, readfds := readfds }

def select (nfds : Int) (timeout : SelectTimeval) (readIn writeIn errorIn : FdSet) (readOut writeOut errorOut : Nat) :
    Outcome :=
  let (C', segs) := C.drainRawRelayQueue env.drained
  if !selectWellShaped nfds readIn readOut then
    { env.forward C' (.select nfds timeout readIn writeIn errorIn readOut writeOut errorOut) with segs := segs }
  else
    let request := C'.selectRequest i s nfds timeout readIn writeIn errorIn readOut writeOut errorOut
    { console := C', reply := C'.selectReply i s readOut (env.real request), requests := [request], segs := segs }

end Readiness

/-! ## The bridged commands -/

section Bridged

variable (C : Console) (i : Nat) (s : Instance) (env : Env)

def setService (S : Service) : Console := { C with service := S }

/-- The local address `Bind` learns for a socket. -/
def learnedIp (fd : Int) : UInt32 :=
  let gsn := env.real (.getSockName fd RecvFromOut.sockaddrSize)
  let sockname := gsn.out.headD []
  let ip :=
    if gsn.rc = 0 ∧ gsn.err = 0 then read32 (byteAt sockname 4) (byteAt sockname 5) (byteAt sockname 6) (byteAt sockname 7)
    else 0
  if ip = 0 then env.nifmIp else ip

def bind (fd : Int) (addr : Bytes) : Outcome :=
  let reply := env.real (.bind fd addr)
  match sockaddrIn? addr with
  | none => env.forward C (.bind fd addr)
  | some (_, port) =>
    { console := C.setService (C.service.bind i fd port (learnedIp env fd) env.relayUp)
      reply := reply
      requests := .bind fd addr ::
        if s.getTrackedType fd == SOCK_DGRAM then [.getSockName fd RecvFromOut.sockaddrSize] else [] }

/-- The virtual-TCP branch of `SendTo`. -/
def sendToConn (k : Fin maxVTcpConns) (fd : Int) (buffer : Bytes) : Outcome :=
  let (S, segs) := C.service.sendTo i fd buffer env.relayUp env.relayOk env.now
  let relay := ⟨(C.service.ensureRelayConnected env.relayUp).2, env.relayOk, env.now⟩
  let (_, _, ret, errno) := (C.service.vtcp.conns k).sendTo s.bridgedLocalIp relay buffer
  { console := C.setService S, reply := .ofErrno ret errno, segs := segs }

/-- The end of `SendTo`, on the bridged socket. -/
def sendToRelay (fd : Int) (buffer addr : Bytes) : Outcome :=
  let S := (C.service.sendTo i fd buffer env.relayUp env.relayOk env.now).1
  if !(C.service.ensureRelayConnected env.relayUp).2 then { console := C.setService S, reply := .ofErrno (-1) Errno.EIO }
  else if maxBridgedPayload < buffer.length then { console := C.setService S, reply := .ofErrno (-1) .EMSGSIZE }
  else
    let (dstIp, dstPort) := (sockaddrIn? addr).getD (0, 0)
    { console := C.setService S
      reply := if env.relayOk then .ofErrno buffer.length .none else .ofErrno (-1) Errno.EIO
      udp := [⟨s.bridgedLocalIp, dstIp, s.bridgedLocalPort, dstPort, buffer⟩] }

def sendTo (fd flags : Int) (buffer addr : Bytes) : Outcome :=
  match C.service.vtcp.findVTcpConnByFd (C.service.owns i) fd with
  | some k => C.sendToConn i s env k fd buffer
  | none => if s.isBridged fd then C.sendToRelay i s env fd buffer addr else env.forward C (.sendTo fd flags buffer addr)

/-- The end of `RecvFrom`, on the bridged socket. -/
def recvFromRelay (buffer addrOut : Nat) : Outcome :=
  let (q, out) := C.controlQueue.recvFrom s.bridgedLocalPort buffer addrOut
  { console := { service := if out.src.isSome then C.service.touchBridgeActivity env.now else C.service, controlQueue := q }
    reply := out.answer }

def recvFrom (fd flags : Int) (buffer addrOut : Nat) : Outcome :=
  let (C', segs) := C.drainRawRelayQueue env.drained
  match C'.service.vtcp.findVTcpConnByFd (C'.service.owns i) fd with
  | some k =>
    { console := C'.setService (C'.service.recvFrom i fd buffer addrOut env.now)
      reply := ((C'.service.vtcp.conns k).recvFrom buffer addrOut).2.answer
      segs := segs }
  | none =>
    if s.isBridged fd then { C'.recvFromRelay s env buffer addrOut with segs := segs }
    else { env.forward C' (.recvFrom fd flags buffer addrOut) with segs := segs }

def close (fd : Int) : Outcome :=
  let (S, segs) := C.service.close i fd
  if C.service.isSynthetic i fd then { console := C.setService S, reply := .ofErrno 0 .none, segs := segs }
  else { env.forward (C.setService S) (.close fd) with segs := segs }

/-- The reply of an `Accept` on the instance's own listener. -/
def acceptReply (addrOut : Nat) : Answer :=
  match SlotTable.first (fun p => p.used && p.gotFinalAck) C.service.vtcp.pendingAccepts,
    C.service.vtcp.accept (C.service.owns i) with
  | some p, some (_, newFd) =>
    let peer := C.service.vtcp.pendingAccepts p
    { ret := newFd
      extra := min addrOut RecvFromOut.sockaddrSize
      out := [(sockaddrBytes peer.peerIp peer.peerPort).take addrOut] }
  | _, _ => .ofErrno (-1) .EWOULDBLOCK

def accept (fd : Int) (addrOut : Nat) : Outcome :=
  if C.service.vtcp.isOwnTcpListenFd (C.service.owns i) fd then
    let (C', segs) := C.drainRawRelayQueue env.drained
    { console := C'.setService (C'.service.accept i fd), reply := C'.acceptReply i addrOut, segs := segs }
  else env.forward C (.accept fd addrOut)

/-- `RetryIntervalMs` in steps of 20 ms. -/
def waitsPerAttempt : Nat := 25

def maxConnectAttempts : Nat := 6

def isEstablished (fd : Int) : Bool :=
  (C.service.vtcp.findVTcpConnByFd (C.service.owns i) fd).any (fun k => (C.service.vtcp.conns k).established)

/-- The waits of one attempt of a `Connect`, from the `j`-th on. -/
def connectWaits (i : Nat) (fd : Int) (waits : Nat → Drained) : Nat → Nat → Console → Console × List Segment × Bool
  | 0, _, C => (C, [], false)
  | n + 1, j, C =>
    let (C', segs) := C.drainRawRelayQueue (waits j)
    if C'.isEstablished i fd then (C', segs, true)
    else
      let (C'', segs', established) := connectWaits i fd waits n (j + 1) C'
      (C'', segs ++ segs', established)

/-- The attempts of a `Connect`: each sends the SYN and waits. -/
def connectAttempts (i : Nat) (fd : Int) (syn : Segment) (waits : Nat → Drained) :
    Nat → Nat → Console → Console × List Segment × Bool
  | 0, _, C => (C, [], false)
  | n + 1, j, C =>
    match connectWaits i fd waits waitsPerAttempt j C with
    | (C', segs, true) => (C', C.service.sendSegments [syn] ++ segs, true)
    | (C', segs, false) =>
      let (C'', segs', established) := connectAttempts i fd syn waits n (j + waitsPerAttempt) C'
      (C'', C.service.sendSegments [syn] ++ segs ++ segs', established)

/-- The virtual `Connect`. -/
def connectVirtual (fd : Int) (dstIp : UInt32) (dstPort : UInt16) : Outcome :=
  let S := (C.service.connect i fd dstIp dstPort env.ourIsn env.relayUp).1
  match C.service.ensureRelayConnected env.relayUp with
  | (_, false) => { console := C.setService S, reply := .ofErrno (-1) Errno.EIO }
  | (S', true) =>
    match S'.vtcp.connect (S'.owns i) s.bridgedLocalIp fd dstIp dstPort env.ourIsn with
    | none => { console := C.setService S, reply := .ofErrno (-1) .ENOBUFS }
    | some (_, syn) =>
      let (C', segs, established) := connectAttempts i fd syn env.waits maxConnectAttempts 0 (C.setService S)
      if established then { console := C', reply := .ofErrno 0 .none, segs := segs }
      else
        { console := C'.setService (C'.service.connectTimedOut i fd)
          reply := .ofErrno (-1) .ETIMEDOUT
          segs := segs }

/-- A `Connect` answered by the virtual TCP: of a TCP socket, to the control port. -/
def connectsVirtually (fd : Int) (addr : Bytes) : Bool :=
  s.getTrackedType fd == SOCK_STREAM && ((sockaddrIn? addr).getD (0, 0)).2 == ldnControlPort

def connect (fd : Int) (addr : Bytes) : Outcome :=
  let (dstIp, dstPort) := (sockaddrIn? addr).getD (0, 0)
  if connectsVirtually s fd addr then C.connectVirtual i s env fd dstIp dstPort else env.forward C (.connect fd addr)

end Bridged

/-! ## One command -/

/-- A command of a live instance. -/
def commandOf (C : Console) (i : Nat) (s : Instance) (env : Env) : Command → Outcome
  | .socket domain type protocol =>
    let c := Command.socket domain type protocol
    env.forward (C.setService (C.service.socket i type (env.real c).ret)) c
  | .socketExempt domain type protocol =>
    let c := Command.socketExempt domain type protocol
    env.forward (C.setService (C.service.socket i type (env.real c).ret)) c
  | .select nfds timeout readIn writeIn errorIn readOut writeOut errorOut =>
    C.select i s env nfds timeout readIn writeIn errorIn readOut writeOut errorOut
  | .poll fds fdsOut nfds timeout => C.poll i s env fds fdsOut nfds timeout
  | .recvFrom fd flags buffer addrOut => C.recvFrom i s env fd flags buffer addrOut
  | .sendTo fd flags buffer addr => C.sendTo i s env fd flags buffer addr
  | .accept fd addrOut => C.accept i env fd addrOut
  | .bind fd addr => C.bind i s env fd addr
  | .connect fd addr => C.connect i s env fd addr
  | .listen fd backlog => env.forward (C.setService (C.service.listen i fd)) (.listen fd backlog)
  | .close fd => C.close i env fd
  | c => env.forward C c

def command (C : Console) (i : Nat) (env : Env) (c : Command) : Outcome :=
  match C.service.instance? i with
  | none => { console := C, reply := {} }
  | some s => C.commandOf i s env c

/-! ## A command is a run -/

end Console

namespace Service

/-- A state is reached from another by steps that all are `ok`. -/
inductive Steps (ok : Op → Prop) (S : Service) : Service → Prop
  | refl : Steps ok S S
  | step {S' : Service} (h : Steps ok S S') (op : Op) (hok : ok op) : Steps ok S (S'.step op).1

/-- **What every step keeps, a run keeps.** -/
theorem Steps.keeps {ok : Op → Prop} {S S' : Service} {P : Service → Prop} (h : Steps ok S S') (hS : P S)
    (hstep : ∀ T op, ok op → P T → P (T.step op).1) : P S' := by
  induction h with
  | refl => exact hS
  | step _ op hok ih => exact hstep _ op hok ih

theorem Steps.trans {ok ok' : Op → Prop} {S S' S'' : Service} (h : Steps ok S S') (h' : Steps ok' S' S'')
    (hle : ∀ op, ok' op → ok op) : Steps ok S S'' :=
  h'.keeps h (fun _ op hok hT => hT.step op (hle op hok))

/-- The steps of a drain. -/
def Op.Drains : Op → Prop
  | .drainSegment _ _ | .drainRetransmits _ => True
  | _ => False

end Service

/-- The steps of the service a command of an instance can take. -/
def Command.Takes (i : Nat) (c : Command) : Service.Op → Prop
  | .drainSegment _ _ | .drainRetransmits _ | .received _ => True
  | .socket j _ _ | .listen j _ | .sendTo j _ _ _ _ _ | .recvFrom j _ _ _ _ => j = i
  | .bind j fd _ _ _ => j = i ∧ ∃ addr, c = .bind fd addr
  | .accept j fd => j = i ∧ ∃ addrOut, c = .accept fd addrOut
  | .connect j fd _ _ _ _ | .connectTimedOut j fd => j = i ∧ ∃ addr, c = .connect fd addr
  | .close j fd => j = i ∧ c = .close fd
  | _ => False

theorem Command.takes_of_drains (i : Nat) (c : Command) (op : Service.Op) (h : op.Drains) : c.Takes i op := by
  cases op with
  | drainSegment ourIsn m => trivial
  | drainRetransmits now => trivial
  | _ => cases h

namespace Console

/-! ### The moves of a console -/

/-- What a command does one at a time: it drains a packet of the relay's queue, reads from the control queue, or takes a step
of the service. -/
inductive Move where
  | packet (ourIsn : UInt32) (pkt : Bytes)
  | read (port : UInt16) (bufSize addrSize : Nat)
  | step (op : Service.Op)

def move (C : Console) : Move → Console
  | .packet ourIsn pkt => (C.drainPacket ourIsn pkt).1
  | .read port bufSize addrSize => { C with controlQueue := (C.controlQueue.recvFrom port bufSize addrSize).1 }
  | .step op => C.setService (C.service.step op).1

/-- A console is reached from another by moves that all are `ok`. -/
abbrev Moves (ok : Move → Prop) : Console → Console → Prop := Runs.Reachable move (fun _ m => ok m)

/-- The retransmissions and the packets of a batch are moves that `ok` allows. -/
def Drained.Allowed (ok : Move → Prop) (d : Drained) : Prop :=
  ok (.step (.drainRetransmits d.now)) ∧ ∀ p ∈ d.popped, ok (.packet p.1 p.2)

/-- The moves of a drain. -/
def Move.Drains : Move → Prop
  | .packet _ _ => True
  | .read _ _ _ => False
  | .step op => op.Drains

/-- The moves a command of an instance can make: it drains what its environment pops. -/
def Move.Of (i : Nat) (env : Env) (c : Command) : Move → Prop
  | .packet ourIsn pkt => (ourIsn, pkt) ∈ env.drained.popped ∨ ∃ k, (ourIsn, pkt) ∈ (env.waits k).popped
  | .read _ _ _ => True
  | .step op => c.Takes i op

section Drains

variable {ok : Move → Prop}

theorem moves_drainPackets : ∀ (popped : List (UInt32 × Bytes)) (C : Console), (∀ p ∈ popped, ok (.packet p.1 p.2)) →
    Moves ok C (C.drainPackets popped).1
  | [], _, _ => .init
  | (ourIsn, pkt) :: rest, _, h =>
    (Runs.Reachable.single (Move.packet ourIsn pkt) (h _ List.mem_cons_self)).trans
      (moves_drainPackets rest _ (fun p hp => h p (List.mem_cons_of_mem _ hp)))

theorem moves_drain (C : Console) {d : Drained} (hd : Drained.Allowed ok d) : Moves ok C (C.drainRawRelayQueue d).1 :=
  (Runs.Reachable.single (Move.step (.drainRetransmits d.now)) hd.1).trans
    (moves_drainPackets d.popped { C with service := (C.service.drainRetransmits d.now).1 } hd.2)

section Connect

variable (i : Nat) (fd : Int) {waits : Nat → Drained} (hw : ∀ k, Drained.Allowed ok (waits k))

include hw

theorem moves_connectWaits : ∀ (n k : Nat) (C : Console), Moves ok C (connectWaits i fd waits n k C).1
  | 0, _, _ => .init
  | n + 1, k, C => by
    have hd := moves_drain C (hw k)
    rw [connectWaits]
    dsimp only
    split
    · exact hd
    · exact hd.trans (moves_connectWaits n (k + 1) _)

theorem moves_connectAttempts (syn : Segment) : ∀ (n k : Nat) (C : Console),
    Moves ok C (connectAttempts i fd syn waits n k C).1
  | 0, _, _ => .init
  | n + 1, k, C => by
    have hwait := moves_connectWaits i fd hw waitsPerAttempt k C
    rw [connectAttempts]
    generalize connectWaits i fd waits waitsPerAttempt k C = r at hwait
    obtain ⟨C', segs, established⟩ := r
    cases established with
    | true => exact hwait
    | false => exact hwait.trans (moves_connectAttempts syn n (k + waitsPerAttempt) C')

end Connect

end Drains

section Command

variable (C : Console) (i : Nat) (s : Instance) (env : Env)

theorem allowed_drained (c : Command) : Drained.Allowed (Move.Of i env c) env.drained :=
  ⟨trivial, fun _ hp => .inl hp⟩

theorem allowed_waits (c : Command) (k : Nat) : Drained.Allowed (Move.Of i env c) (env.waits k) :=
  ⟨trivial, fun _ hp => .inr ⟨k, hp⟩⟩

theorem moves_connectVirtual (fd : Int) (addr : Bytes) (dstIp : UInt32) (dstPort : UInt16) :
    Moves (Move.Of i env (.connect fd addr)) C (C.connectVirtual i s env fd dstIp dstPort).console := by
  have hc : Moves (Move.Of i env (.connect fd addr)) C _ :=
    .single (Move.step (.connect i fd dstIp dstPort env.ourIsn env.relayUp)) ⟨rfl, addr, rfl⟩
  unfold connectVirtual
  dsimp only
  split
  · exact hc
  split
  · exact hc
  · rename_i syn hsyn
    have ha := hc.trans (moves_connectAttempts i fd (allowed_waits i env (.connect fd addr)) syn maxConnectAttempts 0
      (C.setService (C.service.connect i fd dstIp dstPort env.ourIsn env.relayUp).1))
    split
    · exact ha
    · exact ha.next (.step (.connectTimedOut i fd)) ⟨rfl, addr, rfl⟩

/-- The end of a `RecvFrom` on the bridged socket reads the control queue, and notes the activity if it finds a packet. -/
theorem moves_recvFromRelay (c : Command) (buffer addrOut : Nat) :
    Moves (Move.Of i env c) C (C.recvFromRelay s env buffer addrOut).console := by
  have hread : Moves (Move.Of i env c) C _ := .single (Move.read s.bridgedLocalPort buffer addrOut) trivial
  unfold recvFromRelay
  dsimp only
  split
  · exact hread.next (.step (.received env.now)) trivial
  · exact hread

/-- A `Poll` changes what its draining changes. -/
theorem console_poll (fds : List PollFd) (fdsOut : Nat) (nfds timeout : Int) :
    (C.poll i s env fds fdsOut nfds timeout).console = (C.drainRawRelayQueue env.drained).1 := by
  unfold poll
  dsimp only
  split
  · rfl
  · split <;> rfl

/-- So does a `Select`. -/
theorem console_select (nfds : Int) (timeout : SelectTimeval) (readIn writeIn errorIn : FdSet)
    (readOut writeOut errorOut : Nat) :
    (C.select i s env nfds timeout readIn writeIn errorIn readOut writeOut errorOut).console =
      (C.drainRawRelayQueue env.drained).1 := by
  unfold select
  dsimp only
  split <;> rfl

/-- **Every command takes the console along a run of its moves.** -/
theorem moves_command (c : Command) : Moves (Move.Of i env c) C (C.command i env c).console := by
  have hinit : ∀ c : Command, Moves (Move.Of i env c) C C := fun _ => .init
  have hd : ∀ c : Command, Moves (Move.Of i env c) C (C.drainRawRelayQueue env.drained).1 :=
    fun c => moves_drain C (allowed_drained i env c)
  unfold command
  cases C.service.instance? i with
  | none => exact hinit c
  | some s =>
    cases c with
    | socket domain type protocol => exact (hinit _).next (.step (.socket i type _)) rfl
    | socketExempt domain type protocol => exact (hinit _).next (.step (.socket i type _)) rfl
    | listen fd backlog => exact (hinit _).next (.step (.listen i fd)) rfl
    | select nfds timeout readIn writeIn errorIn readOut writeOut errorOut =>
      show Moves _ _ (C.select i s env nfds timeout readIn writeIn errorIn readOut writeOut errorOut).console
      rw [console_select]
      exact hd _
    | poll fds fdsOut nfds timeout =>
      show Moves _ _ (C.poll i s env fds fdsOut nfds timeout).console
      rw [console_poll]
      exact hd _
    | recvFrom fd flags buffer addrOut =>
      show Moves _ _ (C.recvFrom i s env fd flags buffer addrOut).console
      unfold recvFrom
      dsimp only
      split
      · exact (hd _).next (.step (.recvFrom i fd buffer addrOut env.now)) rfl
      · split
        · exact (hd _).trans (moves_recvFromRelay _ i s env _ buffer addrOut)
        · exact hd _
    | sendTo fd flags buffer addr =>
      have hs : Moves (Move.Of i env (.sendTo fd flags buffer addr)) C _ :=
        .single (Move.step (.sendTo i fd buffer env.relayUp env.relayOk env.now)) rfl
      show Moves _ _ (C.sendTo i s env fd flags buffer addr).console
      unfold sendTo
      split
      · exact hs
      · split
        · unfold sendToRelay
          dsimp only
          split
          · exact hs
          · split <;> exact hs
        · exact hinit _
    | accept fd addrOut =>
      show Moves _ _ (C.accept i env fd addrOut).console
      unfold accept
      split
      · exact (hd _).next (.step (.accept i fd)) ⟨rfl, addrOut, rfl⟩
      · exact hinit _
    | bind fd addr =>
      show Moves _ _ (C.bind i s env fd addr).console
      unfold bind
      dsimp only
      split
      · exact hinit _
      · exact (hinit _).next (.step (.bind i fd _ _ env.relayUp)) ⟨rfl, addr, rfl⟩
    | connect fd addr =>
      show Moves _ _ (C.connect i s env fd addr).console
      unfold connect
      dsimp only
      split
      · exact moves_connectVirtual C i s env fd addr _ _
      · exact hinit _
    | close fd =>
      show Moves _ _ (C.close i env fd).console
      unfold close
      dsimp only
      split <;> exact (hinit _).next (.step (.close i fd)) ⟨rfl, rfl⟩
    | _ => exact hinit _

end Command

/-! ### The steps of the service among them -/

open Service (Steps)

section Steps

variable (C : Console)

theorem steps_drainPacket (ourIsn : UInt32) (pkt : Bytes) :
    Steps Service.Op.Drains C.service (C.drainPacket ourIsn pkt).1.service := by
  unfold drainPacket
  split
  · exact .refl
  dsimp only
  split
  · exact .refl
  split
  · exact .refl
  split
  · exact .refl
  · rename_i m hm
    exact Steps.refl.step (.drainSegment ourIsn m) trivial

variable {C} {C' : Console}

/-- **A run of moves takes the service along a run of its steps**: those of the moves, and those of a drain. -/
theorem steps_moves {ok : Move → Prop} {okOp : Service.Op → Prop} (hdrain : ∀ op, op.Drains → okOp op)
    (hstep : ∀ op, ok (.step op) → okOp op) (h : Moves ok C C') : Steps okOp C.service C'.service := by
  refine Runs.Reachable.keeps (P := fun D : Console => Steps okOp C.service D.service) .refl (fun D m hD hok => ?_) h
  cases m with
  | packet ourIsn pkt => exact hD.trans (D.steps_drainPacket ourIsn pkt) hdrain
  | read port bufSize addrSize => exact hD
  | step op => exact hD.step op (hstep op hok)

variable (C)

theorem steps_drain (d : Drained) : Steps Service.Op.Drains C.service (C.drainRawRelayQueue d).1.service := by
  have hmoves : Moves Move.Drains C (C.drainRawRelayQueue d).1 := moves_drain C ⟨trivial, fun _ _ => trivial⟩
  exact steps_moves (fun _ h => h) (fun _ h => h) hmoves

/-- **Every command takes the service along a run of its steps.** -/
theorem steps_command (i : Nat) (env : Env) (c : Command) :
    Steps (c.Takes i) C.service (C.command i env c).console.service :=
  steps_moves (c.takes_of_drains i) (fun _ h => h) (moves_command C i env c)

end Steps

/-! ## Reached states -/

/-- The states of all runs. -/
abbrev Reached : Service → Prop := Service.Reachable (fun _ _ => True)

theorem reached_step {S : Service} (h : Reached S) (op : Service.Op) : Reached (S.step op).1 := h.step op trivial

theorem reached_command {C : Console} (h : Reached C.service) (i : Nat) (env : Env) (c : Command) :
    Reached (C.command i env c).console.service :=
  (C.steps_command i env c).keeps h (fun _ op _ hT => reached_step hT op)

end Console
end Slp
