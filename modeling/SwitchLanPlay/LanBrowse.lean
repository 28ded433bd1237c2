import SwitchLanPlay.AesGcm
import SwitchLanPlay.Filling
import SwitchLanPlay.HmacSha256
import SwitchLanPlay.NetworkInfo
/-!
# LanBrowse — browse requests, replies and their challenges (tools/slp_lan.py)

A console broadcasts a browse request with a challenge under a key that it names, and a host answers with its session info,
the challenge's HMAC under a key from both sides' challenge keys, and those two keys in the session info.  The block cipher is
any one that opens what it sealed (`Aes`).
-/
namespace Slp
namespace Lan

open Wire

def SEARCH_CRITERIA_SIZE : Nat := 0x23A

def CHALLENGE_SIZE : Nat := 0x12A

def MAX_BROWSE_REPLY_SIZE : Nat := 1364

/-- The eras of `SIZES`. -/
inductive InfoLayout where
  | upTo52
  | from53
  | from57
  | from510to518
  | from519
  | from510
deriving DecidableEq

def SIZES : InfoLayout → Nat
  | .upTo52 => 0x4F2
  | .from53 => 0x4F2
  | .from57 => 0x512
  | .from510to518 => 0x511
  | .from519 => 0x511
  | .from510 => 0x511

inductive Raised where
  | structError
  | overflowError
  | valueError
  | indexError
  | assertionError
deriving DecidableEq

def orRaise {α : Type} (e : Raised) : Option α → Except Raised α
  | some v => .ok v
  | none => .error e

/-- A big-endian field of `struct.pack`. -/
def packed (n v : Nat) : Except Raised Bytes := orRaise .structError ((Layout.uintBE n).pack v)

/-- A number assigned to a byte of a bytearray. -/
def toByte (v : Nat) : Except Raised UInt8 := if v < 256 then .ok (UInt8.ofNat v) else .error .valueError

/-! ## Ids -/

def ipU32 (ip : Bytes) : Nat := leValue ip.reverse

def lanNetworkId (ip : Bytes) (port : Nat) : Nat := ((ipU32 ip &&& 0xFFFF) <<< 16) ||| port

def broadcastAddrFor (localIp mask : Bytes) : Except Raised Bytes :=
  orRaise .overflowError ((Layout.uintBE 4).pack (ipU32 localIp ||| (0xFFFFFFFF - ipU32 mask % 0x100000000)))

def bcastFor (myIp : Bytes) : Except Raised Bytes := broadcastAddrFor myIp [255, 255, 255, 0]

/-! ## Ciphers -/

variable {κ : Type} (C : Aes κ)

/-- `AES.new`. -/
def aesKey (key : Bytes) : Except Raised κ := orRaise .valueError (C.new key)

def aesEcbEncrypt (key data : Bytes) : Except Raised Bytes := do
  let k ← aesKey C key
  if data.length % 16 = 0 then return C.encrypt k data else throw .valueError

/-- The mode takes any nonce but the empty one. -/
def gcmKey (key nonce : Bytes) : Except Raised κ := if nonce = [] then .error .valueError else aesKey C key

def aesGcmEncrypt (key nonce data : Bytes) : Except Raised (Bytes × Bytes) := do
  let k ← gcmKey C key nonce
  return C.gcm.encryptAndDigest k nonce data

def aesGcmDecrypt (key nonce tag data : Bytes) : Except Raised Bytes := do
  let k ← gcmKey C key nonce
  orRaise .valueError (C.gcm.decryptAndVerify k nonce data tag)

def nonceFrom (broadcastAddr counter : Bytes) : Bytes := broadcastAddr ++ counter

/-! ## Challenge blocks -/

structure ChallengeBlock where
  version : UInt8
  enabled : UInt8
  counter : Bytes
  key : Bytes
  tag : Bytes
  data : Bytes
deriving DecidableEq

def parseChallengeBlock (block : Bytes) : Except Raised ChallengeBlock :=
  if block.length = CHALLENGE_SIZE then
    .ok ⟨byteAt block 0, byteAt block 1, bytesAt block 2 8, bytesAt block 0x0A 16, bytesAt block 0x1A 16, block.drop 0x2A⟩
  else .error .assertionError

def decryptRequestChallenge (gameKey block broadcastAddr : Bytes) : Except Raised Bytes := do
  let ch ← parseChallengeBlock block
  if ch.enabled = 0 then return ch.data.take 256
  else
    let encKey ← aesEcbEncrypt C gameKey ch.key
    aesGcmDecrypt C encKey (nonceFrom broadcastAddr ch.counter) ch.tag (ch.data.take 256)

def buildChallengeBlock (gameKey reqBlock myKey broadcastAddr : Bytes) (counter : Option Bytes) : Except Raised Bytes := do
  let ch ← parseChallengeBlock reqBlock
  let counter := counter.getD ch.counter
  if ch.enabled = 0 then
    let block := ((List.replicate CHALLENGE_SIZE 0).set 0 ch.version).set 1 0
    let block := setSlice block 2 10 counter
    let block := setSlice block 0x0A 0x1A myKey
    return setSlice block 0x2A (0x2A + 16) ((hmacSha256 gameKey []).take 16)
  else
    let challenge ← decryptRequestChallenge C gameKey reqBlock broadcastAddr
    let content := (hmacSha256 gameKey challenge).take 16
    let respKey := (hmacSha256 gameKey (myKey ++ ch.key)).take 16
    let sealed ← aesGcmEncrypt C respKey (nonceFrom broadcastAddr counter) content
    let block := ((List.replicate CHALLENGE_SIZE 0).set 0 ch.version).set 1 1
    let block := setSlice block 2 10 counter
    let block := setSlice block 0x0A 0x1A myKey
    let block := setSlice block 0x1A 0x2A sealed.2
    return setSlice block 0x2A (0x2A + sealed.1.length) sealed.1

def verifyChallengeReply (gameKey reqBlock replyBlock broadcastAddr : Bytes) : Except Raised Bytes := do
  let ch ← parseChallengeBlock replyBlock
  let req ← parseChallengeBlock reqBlock
  if ch.enabled = 0 then
    let challenge ← decryptRequestChallenge C gameKey reqBlock broadcastAddr
    return (hmacSha256 gameKey challenge).take 16
  else
    let respKey := (hmacSha256 gameKey (ch.key ++ req.key)).take 16
    aesGcmDecrypt C respKey (nonceFrom broadcastAddr ch.counter) ch.tag (ch.data.take 16)

/-! ## Requests -/

structure BrowseRequest where
  typ : UInt8
  size : Nat
  criteria : Bytes
  challenge : Option Bytes
deriving DecidableEq

def parseBrowseRequest (data : Bytes) : Option BrowseRequest :=
  if data.length < 5 then none
  else if byteAt data 0 ≠ 0 then none
  else
    let size := (Layout.uintBE 4).read (bytesAt data 1 4)
    if size = SEARCH_CRITERIA_SIZE then
      let rest := data.drop (5 + size)
      some ⟨byteAt data 0, size, bytesAt data 5 size,
        if CHALLENGE_SIZE ≤ rest.length then some (rest.take CHALLENGE_SIZE) else none⟩
    else some ⟨byteAt data 0, size, bytesAt data 5 size, none⟩

/-- The challenge that a request asks about. -/
def challengeAsked : Bytes := (List.range 256).map (fun i => UInt8.ofNat (i * 7))

/-- The block of a request under crypto. -/
def requestBlock (version : Nat) (counter challengeKey : Bytes) (broadcastAddr gameKey : Option Bytes) :
    Except Raised Bytes := do
  let version ← toByte version
  let block := ((List.replicate CHALLENGE_SIZE 0).set 0 version).set 1 1
  let block := setSlice block 2 10 counter
  let block := setSlice block 0x0A 0x1A challengeKey
  match gameKey, broadcastAddr with
  | some gameKey, some broadcastAddr =>
    let encKey ← aesEcbEncrypt C gameKey challengeKey
    let sealed ← aesGcmEncrypt C encKey (nonceFrom broadcastAddr counter) challengeAsked
    let block := setSlice block 0x1A 0x2A sealed.2
    return setSlice block 0x2A block.length sealed.1
  | _, _ =>
    let block := setSlice block 0x1A 0x2A (List.replicate 16 0)
    return setSlice block 0x2A block.length (List.replicate 256 0)

def buildBrowseRequest (cryptoEnabled : Bool) (version : Nat) (counter challengeKey broadcastAddr gameKey : Option Bytes) :
    Except Raised Bytes := do
  let counter := counter.getD [0x11, 0x22, 0x33, 0x44, 0x55, 0x66, 0x77, 0x88]
  let challengeKey := challengeKey.getD ((List.range 16).map UInt8.ofNat)
  let criteria := List.replicate SEARCH_CRITERIA_SIZE 0
  let size ← packed 4 SEARCH_CRITERIA_SIZE
  if cryptoEnabled = true then
    let block ← requestBlock C version counter challengeKey broadcastAddr gameKey
    return [0] ++ size ++ criteria ++ block
  else return [0] ++ size ++ criteria

/-! ## Session infos -/

/-- The keyword arguments of `build_session_info`. -/
structure SessionArgs where
  hostConstant : Bytes := List.replicate 8 1
  hostVariable : Bytes := List.replicate 4 2
  hostService : Bytes := List.replicate 4 3
  gameMode : Nat := 0
  networkId : Nat := 0
  attributes : Bytes := []
  sessionType : Nat := 0
  appData : Bytes := []
  appDataSize : Option Nat := none
  isOpened : Nat := 1
  syscomm : Option Nat := none
  appcomm : Option Nat := none
  sessionKeyParam : Bytes := []
  currentParticipants : Nat := 1
  minParticipants : Nat := 1
  maxParticipants : Nat := 8

/-- The assignments that both layouts begin with. -/
def sessionHead (size syscomm appcomm : Nat) (myIp : Bytes) (a : SessionArgs) : Except Raised Bytes := do
  let info := List.replicate size 0
  let info := setSlice info 0 4 (← packed 4 a.gameMode)
  let info := setSlice info 4 8 (← packed 4 a.networkId)
  let info := setSlice info 8 (8 + 24) ((Ldn.ljust 24 a.attributes).take 24)
  let info := setSlice info 0x20 0x22 (← packed 2 a.currentParticipants)
  let info := setSlice info 0x22 0x24 (← packed 2 a.minParticipants)
  let info := setSlice info 0x24 0x26 (← packed 2 a.maxParticipants)
  let info := info.set 0x26 (← toByte (a.syscomm.getD syscomm))
  let info := info.set 0x27 (← toByte (a.appcomm.getD appcomm))
  let info := setSlice info 0x28 0x2A (← packed 2 a.sessionType)
  let info := setSlice info 0x2A (0x2A + 384) ((Ldn.ljust 384 a.appData).take 384)
  let info := setSlice info 0x1AA 0x1AE (← packed 4 (a.appDataSize.getD 0))
  let info := info.set 0x1AE (← toByte a.isOpened)
  let info := setSlice info 0x1AF (0x1AF + 4) myIp
  return setSlice info (0x1AF + 4) (0x1AF + 6) (← packed 2 30000)

/-- The host as the first station. -/
def stationBlock (name : List Char) : Bytes :=
  let nb := (Utf8.encode name).take 40
  setSlice (((List.replicate 50 0).set 0 1).set 1 1) 2 (2 + nb.length) nb

def buildSessionInfo (layout : InfoLayout) (name : List Char) (myIp : Bytes) (a : SessionArgs) : Except Raised Bytes :=
  match layout with
  | .from53 => do
    let info ← sessionHead (SIZES .from53) 0 0 myIp a
    return setSlice info 0x1D2 (0x1D2 + 50) (stationBlock name)
  | .from510 => do
    let info ← sessionHead (SIZES .from510) 6 1 myIp a
    let info := setSlice info 0x1C1 (0x1C1 + 8) a.hostConstant
    let info := setSlice info 0x1C9 (0x1C9 + 4) a.hostVariable
    let info := setSlice info 0x1CD (0x1CD + 4) a.hostService
    let info := setSlice info 0x1D1 (0x1D1 + 50) (stationBlock name)
    return setSlice info 0x4F1 (0x4F1 + 32) ((Ldn.ljust 32 a.sessionKeyParam).take 32)
  | _ => .error .valueError

/-! ## Replies -/

/-- A profile of `PROFILES`, with what its optional entries are by default. -/
structure Profile where
  key : Bytes
  challenge : Bool
  layout : InfoLayout
  syscomm : Option Nat := none
  appcomm : Option Nat := none
  browsePort : Nat := 30000
  networkId : Option Nat := none
  gameMode : Nat := 0
  sessionType : Nat := 0
  currentParticipants : Nat := 1
  minParticipants : Nat := 1
  maxParticipants : Nat := 8

/-- SLP_CHALLENGE and SLP_CHALLENGE_LEN: whether the first says off, and the number that the second is, `none` when it is
none. -/
structure Environment where
  challengeOff : Bool := false
  challengeLen : Option Int := some 0x3A

/-- The optional arguments of `build_browse_reply`. -/
structure ReplyArgs where
  myKey : Option Bytes := none
  broadcastAddr : Option Bytes := none
  gameMode : Option Nat := none
  networkId : Option Nat := none
  minParticipants : Option Nat := none
  maxParticipants : Option Nat := none
  currentParticipants : Option Nat := none

def ReplyArgs.hostKey (o : ReplyArgs) : Bytes := o.myKey.getD ((List.range 16).map (fun i => UInt8.ofNat (0xA0 + i)))

/-- The challenge that a reply answers: the request's, if the profile has one. -/
def Profile.asked (p : Profile) (request : BrowseRequest) : Option Bytes :=
  if p.challenge = true then request.challenge else none

/-- The arguments of `build_session_info` in a reply. -/
def Profile.sessionArgs (p : Profile) (myIp : Bytes) (o : ReplyArgs) (sessionKeyParam : Bytes) : SessionArgs where
  gameMode := o.gameMode.getD p.gameMode
  networkId := o.networkId.getD (p.networkId.getD (lanNetworkId myIp p.browsePort))
  sessionType := p.sessionType
  syscomm := p.syscomm
  appcomm := p.appcomm
  currentParticipants := o.currentParticipants.getD p.currentParticipants
  minParticipants := o.minParticipants.getD p.minParticipants
  maxParticipants := o.maxParticipants.getD p.maxParticipants
  sessionKeyParam := sessionKeyParam

/-- `reply_block[:_n] if 0 < _n < len(reply_block) else reply_block`. -/
def cutBlock (block : Bytes) (n : Int) : Bytes := if 0 < n ∧ n < block.length then block.take n.toNat else block

/-- What the reply's challenge adds to the packet. -/
def withChallenge (env : Environment) (packet replyBlock : Bytes) : Except Raised Bytes :=
  if env.challengeOff = true then .ok packet
  else do
    let n ← orRaise .valueError env.challengeLen
    let blk := cutBlock replyBlock n
    if packet.length + blk.length ≤ MAX_BROWSE_REPLY_SIZE then return packet ++ blk
    else return packet

def sessionKeyParam (p : Profile) (request : BrowseRequest) (o : ReplyArgs) : Except Raised Bytes :=
  match p.asked request with
  | some block => do
    let ch ← parseChallengeBlock block
    return o.hostKey ++ ch.key
  | none => .ok []

/-- `broadcast_addr or bcast_for(my_ip)`. -/
def replyBroadcast (myIp : Bytes) : Option Bytes → Except Raised Bytes
  | some (c :: addr) => .ok (c :: addr)
  | _ => bcastFor myIp

def buildBrowseReply (env : Environment) (p : Profile) (request : BrowseRequest) (myIp : Bytes) (name : List Char)
    (o : ReplyArgs) : Except Raised Bytes := do
  let skp ← sessionKeyParam p request o
  let info ← buildSessionInfo p.layout name myIp (p.sessionArgs myIp o skp)
  let packet := [1] ++ (← packed 4 info.length) ++ info
  match p.asked request with
  | some block =>
    let addr ← replyBroadcast myIp o.broadcastAddr
    let replyBlock ← buildChallengeBlock C p.key block o.hostKey addr none
    withChallenge env packet replyBlock
  | none => return packet

structure SessionReply where
  typ : Nat
  size : Nat
  info : Bytes
  challenge : Option Bytes
deriving DecidableEq

def extractSessionInfo (packet : Bytes) : Option SessionReply :=
  if packet.length < 5 ∨ byteAt packet 0 ≠ 1 then none
  else
    let size := (Layout.uintBE 4).read (bytesAt packet 1 4)
    let challenge := packet.drop (5 + size)
    some ⟨1, size, bytesAt packet 5 size,
      if CHALLENGE_SIZE ≤ challenge.length then some (challenge.take CHALLENGE_SIZE) else none⟩

/-! ## Ciphers that open what they sealed -/

theorem orRaise_eq_ok {α : Type} {e : Raised} {o : Option α} {v : α} (h : orRaise e o = .ok v) : o = some v := by
  cases o with
  | none => cases h
  | some w => cases h; rfl

theorem length_packed {n v : Nat} {b : Bytes} (h : packed n v = .ok b) : b.length = n :=
  (Layout.uintBE n).length_pack (orRaise_eq_ok h)

theorem read_packed {n v : Nat} {b : Bytes} (h : packed n v = .ok b) : (Layout.uintBE n).read b = v :=
  (Layout.uintBE n).read_pack (orRaise_eq_ok h)

theorem packed_ok {n v : Nat} (h : v < 256 ^ n) : packed n v = .ok (leBytes n v).reverse := by
  have hpack : (Layout.uintBE n).pack v = some (leBytes n v).reverse := if_pos h
  rw [packed, hpack]
  rfl

theorem toByte_ok {v : Nat} (h : v < 256) : toByte v = .ok (UInt8.ofNat v) := if_pos h

theorem exists_aesKey {key : Bytes} (h : key.length = 16) : ∃ k, aesKey C key = .ok k := by
  obtain ⟨k, hk⟩ := Option.isSome_iff_exists.1 (C.new_isSome key h)
  exact ⟨k, by rw [aesKey, hk]; rfl⟩

theorem exists_aesGcmEncrypt {key nonce : Bytes} (hkey : key.length = 16) (hnonce : nonce ≠ []) (data : Bytes) :
    ∃ c, aesGcmEncrypt C key nonce data = .ok c := by
  obtain ⟨k, hk⟩ := exists_aesKey C hkey
  rw [aesGcmEncrypt, gcmKey, if_neg hnonce, hk]
  exact ⟨_, rfl⟩

/-- **A block under a key is a key.** -/
theorem exists_aesEcbEncrypt {key data : Bytes} (hkey : key.length = 16) (hdata : data.length = 16) :
    ∃ c, aesEcbEncrypt C key data = .ok c ∧ c.length = 16 := by
  obtain ⟨k, hk⟩ := exists_aesKey C hkey
  have hwhole : data.length % 16 = 0 := by rw [hdata]
  refine ⟨C.encrypt k data, ?_, (C.length_encrypt k data hwhole).trans hdata⟩
  rw [aesEcbEncrypt, hk]
  exact if_pos hwhole

variable {C}

/-- **What was sealed opens.** -/
theorem aesGcmDecrypt_sealed {key nonce data : Bytes} {c : Bytes × Bytes} (h : aesGcmEncrypt C key nonce data = .ok c) :
    aesGcmDecrypt C key nonce c.2 c.1 = .ok data ∧ c.1.length = data.length ∧ c.2.length = 16 := by
  obtain ⟨k, hk, h⟩ := bind_eq_ok h
  cases h
  refine ⟨?_, C.gcm.length_text k nonce data, C.gcm.length_tag k nonce data⟩
  rw [aesGcmDecrypt, hk]
  show orRaise .valueError (C.gcm.decryptAndVerify k nonce _ _) = _
  rw [C.gcm.decrypt_encrypt]
  rfl

theorem length_hmac16 (key msg : Bytes) : ((hmacSha256 key msg).take 16).length = 16 := by
  rw [List.length_take, length_hmac, Nat.min_eq_left (by decide)]

/-! ## Blocks by their fields -/

/-- The block of these fields, with zeros behind them. -/
def blockOf (version enabled : UInt8) (counter key tag data : Bytes) : Bytes :=
  filled CHALLENGE_SIZE ([version] ++ [enabled] ++ counter ++ key ++ tag ++ data)

section Blocks

variable {version enabled : UInt8} {counter key tag data : Bytes}

theorem length_blockOf (hcounter : counter.length = 8) (hkey : key.length = 16) (htag : tag.length = 16)
    (hdata : data.length ≤ 256) : (blockOf version enabled counter key tag data).length = CHALLENGE_SIZE := by
  refine length_filled ?_
  simp only [List.length_append, List.length_singleton, hcounter, hkey, htag, CHALLENGE_SIZE]
  omega

theorem parseChallengeBlock_blockOf (hcounter : counter.length = 8) (hkey : key.length = 16) (htag : tag.length = 16)
    (hdata : data.length ≤ 256) :
    parseChallengeBlock (blockOf version enabled counter key tag data) =
      .ok ⟨version, enabled, counter, key, tag, filled 256 data⟩ := by
  have hlen : ([version] ++ [enabled] ++ counter ++ key ++ tag ++ data).length = 42 + data.length := by
    simp only [List.length_append, List.length_singleton, hcounter, hkey, htag]
  have hsplit : blockOf version enabled counter key tag data =
      [version] ++ ([enabled] ++ (counter ++ (key ++ (tag ++ filled 256 data)))) := by
    rw [blockOf, filled, filled, hlen, CHALLENGE_SIZE, show 0x12A - (42 + data.length) = 256 - data.length by omega]
    simp only [List.append_assoc]
  have hcounterAt : bytesAt (blockOf version enabled counter key tag data) 2 8 = counter := by
    rw [hsplit, ← hcounter]
    exact List.take_left
  have hkeyAt : bytesAt (blockOf version enabled counter key tag data) 0x0A 16 = key := by
    rw [hsplit, bytesAt, show 0x0A = 2 + counter.length by rw [hcounter], ← hkey, ← List.drop_drop]
    show ((counter ++ (key ++ (tag ++ filled 256 data))).drop counter.length).take key.length = key
    rw [List.drop_left, List.take_left]
  have htagAt : bytesAt (blockOf version enabled counter key tag data) 0x1A 16 = tag := by
    rw [hsplit, bytesAt, show 0x1A = 2 + counter.length + key.length by rw [hcounter, hkey], ← htag, ← List.drop_drop,
      ← List.drop_drop]
    show (((counter ++ (key ++ (tag ++ filled 256 data))).drop counter.length).drop key.length).take tag.length = tag
    rw [List.drop_left, List.drop_left, List.take_left]
  have hdataAt : (blockOf version enabled counter key tag data).drop 0x2A = filled 256 data := by
    rw [hsplit, show 0x2A = 2 + counter.length + key.length + tag.length by rw [hcounter, hkey, htag], ← List.drop_drop,
      ← List.drop_drop, ← List.drop_drop]
    show (((counter ++ (key ++ (tag ++ filled 256 data))).drop counter.length).drop key.length).drop tag.length = _
    rw [List.drop_left, List.drop_left, List.drop_left]
  rw [parseChallengeBlock, if_pos (length_blockOf hcounter hkey htag hdata), hcounterAt, hkeyAt, htagAt, hdataAt, hsplit]
  rfl

/-- **The assignments up to the key.** -/
theorem setSlice_key (hcounter : counter.length = 8) (hkey : key.length = 16) :
    setSlice (setSlice (((List.replicate CHALLENGE_SIZE 0).set 0 version).set 1 enabled) 2 10 counter) 0x0A 0x1A key =
      filled CHALLENGE_SIZE ([version] ++ [enabled] ++ counter ++ key) := by
  have hversion : (filled CHALLENGE_SIZE []).set 0 version = filled CHALLENGE_SIZE [version] :=
    set_filled (i := 0) rfl (by decide) version
  have henabled : (filled CHALLENGE_SIZE [version]).set 1 enabled = filled CHALLENGE_SIZE ([version] ++ [enabled]) :=
    set_filled (i := 1) rfl (by decide) enabled
  rw [← filled_nil, hversion, henabled, setSlice_filled (i := 2) rfl (by rw [hcounter]),
    setSlice_filled (i := 0x0A) (by simp [hcounter]) (by rw [hkey])]

/-- **The assignment of the tag.** -/
theorem setSlice_tag (hcounter : counter.length = 8) (hkey : key.length = 16) (htag : tag.length = 16) :
    setSlice (filled CHALLENGE_SIZE ([version] ++ [enabled] ++ counter ++ key)) 0x1A 0x2A tag =
      blockOf version enabled counter key tag [] := by
  rw [setSlice_filled (i := 0x1A) (by simp [hcounter, hkey]) (by rw [htag]), blockOf, List.append_nil]

/-- **A tag that is left out is zeros.** -/
theorem filled_key (hcounter : counter.length = 8) (hkey : key.length = 16) :
    filled CHALLENGE_SIZE ([version] ++ [enabled] ++ counter ++ key) =
      blockOf version enabled counter key (List.replicate 16 0) [] := by
  have hlen : ([version] ++ [enabled] ++ counter ++ key).length = 0x1A := by simp [hcounter, hkey]
  rw [filled_skip (i := 0x2A) (by rw [hlen]; decide) (by decide), hlen, blockOf, List.append_nil]

/-- **The assignment of the data.** -/
theorem setSlice_data (hcounter : counter.length = 8) (hkey : key.length = 16) (htag : tag.length = 16) {j : Nat}
    (hj : 0x2A + data.length = j) :
    setSlice (blockOf version enabled counter key tag []) 0x2A j data = blockOf version enabled counter key tag data := by
  rw [blockOf, List.append_nil, setSlice_filled (i := 0x2A) (by simp [hcounter, hkey, htag]) hj]
  rfl

end Blocks

/-! ## The handshake -/

section Handshake

variable {gameKey challengeKey counter addr myKey : Bytes} {version : Nat}

theorem nonceFrom_ne (hcounter : counter.length = 8) (addr : Bytes) : nonceFrom addr counter ≠ [] := by
  intro h
  rw [(List.append_eq_nil_iff.1 h).2] at hcounter
  cases hcounter

theorem length_challengeAsked : challengeAsked.length = 256 := by simp [challengeAsked]

/-- **A request's block names its key and opens to the challenge.** -/
theorem exists_requestBlock (C : Aes κ) (hgame : gameKey.length = 16) (hkey : challengeKey.length = 16)
    (hcounter : counter.length = 8) (hversion : version < 256) (addr : Bytes) : ∃ block tag data,
      requestBlock C version counter challengeKey (some addr) (some gameKey) = .ok block ∧ block.length = CHALLENGE_SIZE ∧
      parseChallengeBlock block = .ok ⟨UInt8.ofNat version, 1, counter, challengeKey, tag, data⟩ ∧
      decryptRequestChallenge C gameKey block addr = .ok challengeAsked := by
  obtain ⟨encKey, henc, hencLen⟩ := exists_aesEcbEncrypt C hgame hkey
  obtain ⟨c, hc⟩ := exists_aesGcmEncrypt C hencLen (nonceFrom_ne hcounter addr) challengeAsked
  obtain ⟨hopen, hctLen, htagLen⟩ := aesGcmDecrypt_sealed hc
  have hct : c.1.length = 256 := hctLen.trans length_challengeAsked
  have hparse : parseChallengeBlock (blockOf (UInt8.ofNat version) 1 counter challengeKey c.2 c.1) =
      .ok ⟨UInt8.ofNat version, 1, counter, challengeKey, c.2, filled 256 c.1⟩ :=
    parseChallengeBlock_blockOf hcounter hkey htagLen (Nat.le_of_eq hct)
  rw [filled_of_length hct] at hparse
  refine ⟨blockOf (UInt8.ofNat version) 1 counter challengeKey c.2 c.1, c.2, c.1, ?_, ?_, hparse, ?_⟩
  · rw [requestBlock, toByte_ok hversion]
    show (aesEcbEncrypt C gameKey challengeKey >>= _) = _
    rw [henc]
    show (aesGcmEncrypt C encKey (nonceFrom addr counter) challengeAsked >>= _) = _
    rw [hc]
    show Except.ok (setSlice (setSlice _ 0x1A 0x2A c.2) 0x2A (setSlice _ 0x1A 0x2A c.2).length c.1) = _
    rw [setSlice_key hcounter hkey, setSlice_tag hcounter hkey htagLen, setSlice_data hcounter hkey htagLen]
    rw [length_blockOf hcounter hkey htagLen (Nat.zero_le _), hct, CHALLENGE_SIZE]
  · exact length_blockOf hcounter hkey htagLen (Nat.le_of_eq hct)
  · rw [decryptRequestChallenge, hparse]
    show (aesEcbEncrypt C gameKey challengeKey >>= _) = _
    rw [henc]
    show aesGcmDecrypt C encKey (nonceFrom addr counter) c.2 (c.1.take 256) = _
    rw [List.take_of_length_le (Nat.le_of_eq hct), hopen]

theorem length_parsed {block : Bytes} {ch : ChallengeBlock} (h : parseChallengeBlock block = .ok ch) :
    ch.counter.length = 8 ∧ ch.key.length = 16 := by
  unfold parseChallengeBlock at h
  split at h
  · rename_i hlen
    cases h
    exact ⟨length_bytesAt _ _ _ (by rw [hlen]; decide), length_bytesAt _ _ _ (by rw [hlen]; decide)⟩
  · cases h

/-- **What a host answers to a block that it opens**, by its fields. -/
theorem buildChallengeBlock_eq_ok {reqBlock reply : Bytes} (hmyKey : myKey.length = 16)
    (h : buildChallengeBlock C gameKey reqBlock myKey addr none = .ok reply) : ∃ ch challenge,
      parseChallengeBlock reqBlock = .ok ch ∧ decryptRequestChallenge C gameKey reqBlock addr = .ok challenge ∧
      ((ch.enabled = 0 ∧ ∃ content : Bytes, content.length = 16 ∧
          reply = blockOf ch.version 0 ch.counter myKey (List.replicate 16 0) content) ∨
        (ch.enabled ≠ 0 ∧ ∃ c, reply = blockOf ch.version 1 ch.counter myKey c.2 c.1 ∧
          aesGcmEncrypt C ((hmacSha256 gameKey (myKey ++ ch.key)).take 16) (nonceFrom addr ch.counter)
            ((hmacSha256 gameKey challenge).take 16) = .ok c)) := by
  obtain ⟨ch, hch, h⟩ := bind_eq_ok h
  obtain ⟨hcounter, -⟩ := length_parsed hch
  by_cases henabled : ch.enabled = 0
  · have hopen : decryptRequestChallenge C gameKey reqBlock addr = .ok (ch.data.take 256) := by
      rw [decryptRequestChallenge, hch]
      exact if_pos henabled
    simp only [if_pos henabled] at h
    cases h
    refine ⟨ch, _, hch, hopen, .inl ⟨henabled, (hmacSha256 gameKey []).take 16, length_hmac16 _ _, ?_⟩⟩
    have hdata : (0x2A : Nat) + ((hmacSha256 gameKey []).take 16).length = 0x2A + 16 := by rw [length_hmac16]
    show setSlice (setSlice (setSlice _ 2 10 ch.counter) 0x0A 0x1A myKey) 0x2A (0x2A + 16) _ = _
    rw [setSlice_key hcounter hmyKey, filled_key hcounter hmyKey, setSlice_data hcounter hmyKey (by simp) hdata]
  · simp only [if_neg henabled] at h
    obtain ⟨challenge, hopen, h⟩ := bind_eq_ok h
    obtain ⟨c, hc, h⟩ := bind_eq_ok h
    obtain ⟨-, hctLen, htagLen⟩ := aesGcmDecrypt_sealed hc
    refine ⟨ch, challenge, hch, hopen, .inr ⟨henabled, c, ?_, hc⟩⟩
    cases h
    show setSlice (setSlice (setSlice (setSlice _ 2 10 ch.counter) 0x0A 0x1A myKey) 0x1A 0x2A c.2) 0x2A _ c.1 = _
    rw [setSlice_key hcounter hmyKey, setSlice_tag hcounter hmyKey htagLen, setSlice_data hcounter hmyKey htagLen rfl]

/-- **A console verifies what a host answers**, as sent or cut behind the response and filled up with zeros. -/
theorem verify_reply {reqBlock reply : Bytes} (hmyKey : myKey.length = 16)
    (h : buildChallengeBlock C gameKey reqBlock myKey addr none = .ok reply) : reply.length = CHALLENGE_SIZE ∧
      ∃ challenge, decryptRequestChallenge C gameKey reqBlock addr = .ok challenge ∧ ∀ n, 0x3A ≤ n →
        verifyChallengeReply C gameKey reqBlock (filled CHALLENGE_SIZE (reply.take n)) addr =
          .ok ((hmacSha256 gameKey challenge).take 16) := by
  obtain ⟨ch, challenge, hch, hopen, hcases⟩ := buildChallengeBlock_eq_ok hmyKey h
  obtain ⟨hcounter, hkey⟩ := length_parsed hch
  have hcut : ∀ (version enabled : UInt8) {tag data : Bytes}, tag.length = 16 → data.length = 16 → ∀ n, 0x3A ≤ n →
      filled CHALLENGE_SIZE ((blockOf version enabled ch.counter myKey tag data).take n) =
        blockOf version enabled ch.counter myKey tag data := by
    intro version enabled tag data htag hdata n hn
    have hlen : ([version] ++ [enabled] ++ ch.counter ++ myKey ++ tag ++ data).length = 0x3A := by
      simp [hcounter, hmyKey, htag, hdata]
    exact filled_take (by rw [hlen]; exact hn) (by rw [hlen]; decide)
  rcases hcases with ⟨henabled, content, hcontent, rfl⟩ | ⟨henabled, c, rfl, hc⟩
  · refine ⟨length_blockOf hcounter hmyKey (by simp) (by omega), challenge, hopen, ?_⟩
    intro n hn
    rw [hcut _ _ (by simp) hcontent n hn, verifyChallengeReply, hch,
      parseChallengeBlock_blockOf hcounter hmyKey (by simp) (by omega)]
    show (decryptRequestChallenge C gameKey reqBlock addr >>= _) = _
    rw [hopen]
    rfl
  · obtain ⟨hopenReply, hctLen, htagLen⟩ := aesGcmDecrypt_sealed hc
    have hct : c.1.length = 16 := hctLen.trans (length_hmac16 _ _)
    refine ⟨length_blockOf hcounter hmyKey htagLen (by omega), challenge, hopen, ?_⟩
    intro n hn
    rw [hcut _ _ htagLen hct n hn, verifyChallengeReply, hch, parseChallengeBlock_blockOf hcounter hmyKey htagLen (by omega)]
    show aesGcmDecrypt C _ _ c.2 ((filled 256 c.1).take 16) = _
    rw [take_filled (Nat.le_of_eq hct) (by decide), filled_of_length hct]
    exact hopenReply

end Handshake

/-! ## Replies that a console reads -/

theorem length_ljust_take (n : Nat) (b : Bytes) : ((Ldn.ljust n b).take n).length = n := Ldn.length_fit n b

theorem length_sessionHead {size syscomm appcomm : Nat} {myIp info : Bytes} {a : SessionArgs} (hip : myIp.length = 4)
    (hsize : 0x1B5 ≤ size) (h : sessionHead size syscomm appcomm myIp a = .ok info) : info.length = size := by
  obtain ⟨gameMode, hgameMode, h⟩ := bind_eq_ok h
  obtain ⟨networkId, hnetworkId, h⟩ := bind_eq_ok h
  obtain ⟨current, hcurrent, h⟩ := bind_eq_ok h
  obtain ⟨minimum, hminimum, h⟩ := bind_eq_ok h
  obtain ⟨maximum, hmaximum, h⟩ := bind_eq_ok h
  obtain ⟨system, -, h⟩ := bind_eq_ok h
  obtain ⟨app, -, h⟩ := bind_eq_ok h
  obtain ⟨session, hsession, h⟩ := bind_eq_ok h
  obtain ⟨appSize, happSize, h⟩ := bind_eq_ok h
  obtain ⟨opened, -, h⟩ := bind_eq_ok h
  obtain ⟨port, hport, h⟩ := bind_eq_ok h
  rw [← Except.ok.inj h]
  refine length_setSlice ?_ (by rw [length_packed hport]) (by omega)
  refine length_setSlice ?_ (by rw [hip]) (by omega)
  rw [List.length_set]
  refine length_setSlice ?_ (by rw [length_packed happSize]) (by omega)
  refine length_setSlice ?_ (by rw [length_ljust_take]) (by omega)
  refine length_setSlice ?_ (by rw [length_packed hsession]) (by omega)
  rw [List.length_set, List.length_set]
  refine length_setSlice ?_ (by rw [length_packed hmaximum]) (by omega)
  refine length_setSlice ?_ (by rw [length_packed hminimum]) (by omega)
  refine length_setSlice ?_ (by rw [length_packed hcurrent]) (by omega)
  refine length_setSlice ?_ (by rw [length_ljust_take]) (by omega)
  refine length_setSlice ?_ (by rw [length_packed hnetworkId]) (by omega)
  refine length_setSlice ?_ (by rw [length_packed hgameMode]) (by omega)
  exact List.length_replicate

theorem length_stationBlock (name : List Char) : (stationBlock name).length = 50 := by
  have hnb : ((Utf8.encode name).take 40).length ≤ 40 := List.length_take_le _ _
  refine length_setSlice ?_ rfl (by omega)
  rw [List.length_set, List.length_set, List.length_replicate]

/-- **A session info has its layout's size, and the later layout ends in the session key param.** -/
theorem buildSessionInfo_eq_ok {layout : InfoLayout} {name : List Char} {myIp info : Bytes} {a : SessionArgs}
    (hip : myIp.length = 4) (hconstant : a.hostConstant.length = 8) (hvariable : a.hostVariable.length = 4)
    (hservice : a.hostService.length = 4) (h : buildSessionInfo layout name myIp a = .ok info) :
    info.length = SIZES layout ∧ (layout = .from510 → bytesAt info 0x4F1 32 = Ldn.fit 32 a.sessionKeyParam) := by
  have hstation := length_stationBlock name
  cases layout with
  | from53 =>
    obtain ⟨head, hhead, h⟩ := bind_eq_ok h
    have hlen : head.length = 0x4F2 := length_sessionHead hip (by decide) hhead
    rw [← Except.ok.inj h]
    refine ⟨length_setSlice hlen (by rw [hstation]) (by decide), fun hne => by cases hne⟩
  | from510 =>
    obtain ⟨head, hhead, h⟩ := bind_eq_ok h
    have hlen : head.length = 0x511 := length_sessionHead hip (by decide) hhead
    rw [← Except.ok.inj h]
    have hconstantAt := length_setSlice hlen (i := 0x1C1) (j := 0x1C1 + 8) (by rw [hconstant]) (by decide)
    have hvariableAt := length_setSlice hconstantAt (i := 0x1C9) (j := 0x1C9 + 4) (by rw [hvariable]) (by decide)
    have hserviceAt := length_setSlice hvariableAt (i := 0x1CD) (j := 0x1CD + 4) (by rw [hservice]) (by decide)
    have hstationAt := length_setSlice hserviceAt (i := 0x1D1) (j := 0x1D1 + 50) (by rw [hstation]) (by decide)
    refine ⟨length_setSlice hstationAt (by rw [length_ljust_take]) (by decide), fun _ => ?_⟩
    have hread := bytesAt_setSlice (v := Ldn.fit 32 a.sessionKeyParam) (i := 0x4F1) (by rw [hstationAt]; decide) (0x4F1 + 32)
    rw [Ldn.length_fit] at hread
    exact hread
  | _ => cases h

theorem extractSessionInfo_packet {info size : Bytes} (hsize : packed 4 info.length = .ok size) (rest : Bytes) :
    extractSessionInfo ([1] ++ size ++ info ++ rest) = some ⟨1, info.length, info,
      if CHALLENGE_SIZE ≤ rest.length then some (rest.take CHALLENGE_SIZE) else none⟩ := by
  have hlen := length_packed hsize
  have hguard : ¬ (([1] ++ size ++ info ++ rest).length < 5 ∨ byteAt ([1] ++ size ++ info ++ rest) 0 ≠ 1) := by
    rintro (hlt | hne)
    · simp only [List.length_append, List.length_singleton, hlen] at hlt
      omega
    · exact hne rfl
  have hsizeAt : bytesAt ([1] ++ size ++ info ++ rest) 1 4 = size := by
    rw [List.append_assoc, List.append_assoc, ← hlen]
    exact List.take_left
  have hinfoAt : bytesAt ([1] ++ size ++ info ++ rest) 5 info.length = info := by
    rw [bytesAt, List.append_assoc ([1] ++ size), List.drop_left' (by rw [List.length_append, hlen]; rfl), List.take_left]
  have hrest : ([1] ++ size ++ info ++ rest).drop (5 + info.length) = rest :=
    List.drop_left' (by rw [List.length_append, List.length_append, hlen]; rfl)
  rw [extractSessionInfo, if_neg hguard]
  simp only [hsizeAt, read_packed hsize, hinfoAt, hrest]

theorem withChallenge_eq_ok {env : Environment} {packet replyBlock reply : Bytes}
    (hpacket : packet.length ≤ MAX_BROWSE_REPLY_SIZE) (h : withChallenge env packet replyBlock = .ok reply) :
    reply.length ≤ MAX_BROWSE_REPLY_SIZE ∧ ∃ rest, reply = packet ++ rest := by
  unfold withChallenge at h
  split at h
  · cases h
    exact ⟨hpacket, [], (List.append_nil _).symm⟩
  · obtain ⟨n, -, h⟩ := bind_eq_ok h
    by_cases hfit : packet.length + (cutBlock replyBlock n).length ≤ MAX_BROWSE_REPLY_SIZE
    · simp only [if_pos hfit] at h
      cases h
      exact ⟨by rw [List.length_append]; exact hfit, _, rfl⟩
    · simp only [if_neg hfit] at h
      cases h
      exact ⟨hpacket, [], (List.append_nil _).symm⟩

theorem SIZES_bounds (layout : InfoLayout) : 0x4F2 ≤ SIZES layout ∧ SIZES layout ≤ 0x512 := by
  cases layout <;> decide

section Replies

variable {env : Environment} {p : Profile} {request : BrowseRequest} {myIp reply : Bytes} {name : List Char} {o : ReplyArgs}

/-- **What a reply is made of**: there is less room behind the session info than a whole block takes. -/
theorem buildBrowseReply_eq_ok (hip : myIp.length = 4) (h : buildBrowseReply C env p request myIp name o = .ok reply) :
    ∃ skp info size rest, sessionKeyParam p request o = .ok skp ∧
      buildSessionInfo p.layout name myIp (p.sessionArgs myIp o skp) = .ok info ∧ info.length = SIZES p.layout ∧
      (p.layout = .from510 → bytesAt info 0x4F1 32 = Ldn.fit 32 skp) ∧ packed 4 info.length = .ok size ∧
      reply = [1] ++ size ++ info ++ rest ∧ reply.length ≤ MAX_BROWSE_REPLY_SIZE ∧ rest.length < CHALLENGE_SIZE := by
  obtain ⟨skp, hskp, h⟩ := bind_eq_ok h
  obtain ⟨info, hinfo, h⟩ := bind_eq_ok h
  obtain ⟨size, hsize, h⟩ := bind_eq_ok h
  obtain ⟨hlen, hparam⟩ := buildSessionInfo_eq_ok hip List.length_replicate List.length_replicate List.length_replicate hinfo
  obtain ⟨hlow, hhigh⟩ := SIZES_bounds p.layout
  have hpacket : ([1] ++ size ++ info).length = 5 + SIZES p.layout := by
    rw [List.length_append, List.length_append, length_packed hsize, hlen]
    rfl
  have hroom : ([1] ++ size ++ info).length ≤ MAX_BROWSE_REPLY_SIZE := by
    rw [hpacket, MAX_BROWSE_REPLY_SIZE]
    omega
  have hreply : reply.length ≤ MAX_BROWSE_REPLY_SIZE ∧ ∃ rest, reply = [1] ++ size ++ info ++ rest := by
    cases hasked : p.asked request with
    | none =>
      simp only [hasked] at h
      rw [← Except.ok.inj h]
      exact ⟨hroom, [], (List.append_nil _).symm⟩
    | some block =>
      simp only [hasked] at h
      obtain ⟨addr, -, h⟩ := bind_eq_ok h
      obtain ⟨replyBlock, -, h⟩ := bind_eq_ok h
      exact withChallenge_eq_ok hroom h
  obtain ⟨hfit, rest, rfl⟩ := hreply
  refine ⟨skp, info, size, rest, hskp, hinfo, hlen, hparam, hsize, rfl, hfit, ?_⟩
  rw [List.length_append, hpacket, MAX_BROWSE_REPLY_SIZE] at hfit
  rw [CHALLENGE_SIZE]
  omega

/-- **A console reads the session info from a reply.** -/
theorem extractSessionInfo_reply {info size rest : Bytes} (hsize : packed 4 info.length = .ok size)
    (hrest : rest.length < CHALLENGE_SIZE) :
    extractSessionInfo ([1] ++ size ++ info ++ rest) = some ⟨1, info.length, info, none⟩ := by
  rw [extractSessionInfo_packet hsize, if_neg (Nat.not_le.2 hrest)]

/-- **A response that the reply has room for verifies**, against any request that the host opens: the console fills up with
zeros what stands behind the session info. -/
theorem reply_verifies {block addr : Bytes} {n : Int} (hip : myIp.length = 4) (hasked : p.asked request = some block)
    (hkey : o.hostKey.length = 16) (haddr : replyBroadcast myIp o.broadcastAddr = .ok addr) (hon : env.challengeOff = false)
    (hcut : env.challengeLen = some n) (hn : 0x3A ≤ n) (hroom : 5 + SIZES p.layout + n ≤ MAX_BROWSE_REPLY_SIZE)
    (h : buildBrowseReply C env p request myIp name o = .ok reply) :
    ∃ challenge, decryptRequestChallenge C p.key block addr = .ok challenge ∧
      verifyChallengeReply C p.key block (filled CHALLENGE_SIZE (reply.drop (5 + SIZES p.layout))) addr =
        .ok ((hmacSha256 p.key challenge).take 16) := by
  obtain ⟨skp, -, h⟩ := bind_eq_ok h
  obtain ⟨info, hinfo, h⟩ := bind_eq_ok h
  obtain ⟨size, hsize, h⟩ := bind_eq_ok h
  obtain ⟨hlen, -⟩ := buildSessionInfo_eq_ok hip List.length_replicate List.length_replicate List.length_replicate hinfo
  obtain ⟨hlow, -⟩ := SIZES_bounds p.layout
  have hpacket : ([1] ++ size ++ info).length = 5 + SIZES p.layout := by
    rw [List.length_append, List.length_append, length_packed hsize, hlen]
    rfl
  simp only [hasked] at h
  obtain ⟨addr', haddr', h⟩ := bind_eq_ok h
  rw [haddr] at haddr'
  cases haddr'
  obtain ⟨replyBlock, hblock, h⟩ := bind_eq_ok h
  obtain ⟨hsizeBlock, challenge, hopen, hverify⟩ := verify_reply hkey hblock
  rw [MAX_BROWSE_REPLY_SIZE] at hroom
  rw [CHALLENGE_SIZE] at hsizeBlock
  have hblk : cutBlock replyBlock n = replyBlock.take n.toNat := if_pos ⟨by omega, by omega⟩
  have hfit : ([1] ++ size ++ info).length + (cutBlock replyBlock n).length ≤ MAX_BROWSE_REPLY_SIZE := by
    rw [hpacket, hblk, List.length_take, MAX_BROWSE_REPLY_SIZE]
    omega
  rw [withChallenge, if_neg (by rw [hon]; decide), hcut] at h
  have hreply : reply = [1] ++ size ++ info ++ cutBlock replyBlock n := by
    have hbody : (if ([1] ++ size ++ info).length + (cutBlock replyBlock n).length ≤ MAX_BROWSE_REPLY_SIZE then
        Except.ok ([1] ++ size ++ info ++ cutBlock replyBlock n) else .ok ([1] ++ size ++ info)) = .ok reply := h
    rw [if_pos hfit] at hbody
    exact (Except.ok.inj hbody).symm
  refine ⟨challenge, hopen, ?_⟩
  rw [hreply, List.drop_left' hpacket, hblk]
  exact hverify n.toNat (by omega)

end Replies

/-! ## What is built -/

/-- The numbers fit their fields. -/
structure SessionArgs.Fits (a : SessionArgs) : Prop where
  gameMode : a.gameMode < 256 ^ 4
  networkId : a.networkId < 256 ^ 4
  currentParticipants : a.currentParticipants < 256 ^ 2
  minParticipants : a.minParticipants < 256 ^ 2
  maxParticipants : a.maxParticipants < 256 ^ 2
  syscomm : ∀ v ∈ a.syscomm, v < 256
  appcomm : ∀ v ∈ a.appcomm, v < 256
  sessionType : a.sessionType < 256 ^ 2
  appDataSize : ∀ v ∈ a.appDataSize, v < 256 ^ 4
  isOpened : a.isOpened < 256

theorem getD_lt {x : Option Nat} {d n : Nat} (h : ∀ v ∈ x, v < n) (hd : d < n) : x.getD d < n := by
  cases x with
  | none => exact hd
  | some v => exact h v rfl

theorem exists_sessionHead {syscomm appcomm : Nat} {a : SessionArgs} (h : a.Fits) (hsyscomm : syscomm < 256)
    (happcomm : appcomm < 256) (size : Nat) (myIp : Bytes) : ∃ info, sessionHead size syscomm appcomm myIp a = .ok info := by
  have hport : (30000 : Nat) < 256 ^ 2 := by decide
  rw [sessionHead, packed_ok h.gameMode, packed_ok h.networkId, packed_ok h.currentParticipants, packed_ok h.minParticipants,
    packed_ok h.maxParticipants, toByte_ok (getD_lt h.syscomm hsyscomm), toByte_ok (getD_lt h.appcomm happcomm),
    packed_ok h.sessionType, packed_ok (getD_lt h.appDataSize (Nat.pow_pos (by decide))), toByte_ok h.isOpened,
    packed_ok hport]
  exact ⟨_, rfl⟩

theorem exists_buildSessionInfo {layout : InfoLayout} {a : SessionArgs} (hlayout : layout = .from53 ∨ layout = .from510)
    (h : a.Fits) (name : List Char) (myIp : Bytes) : ∃ info, buildSessionInfo layout name myIp a = .ok info := by
  rcases hlayout with rfl | rfl
  · obtain ⟨head, hhead⟩ := exists_sessionHead h (Nat.zero_lt_succ 255) (Nat.zero_lt_succ 255) (SIZES .from53) myIp
    rw [buildSessionInfo, hhead]
    exact ⟨_, rfl⟩
  · obtain ⟨head, hhead⟩ := exists_sessionHead h (by decide : 6 < 256) (by decide : 1 < 256) (SIZES .from510) myIp
    rw [buildSessionInfo, hhead]
    exact ⟨_, rfl⟩

/-- **A host answers every block that it opens.** -/
theorem exists_buildChallengeBlock {gameKey reqBlock myKey addr challenge : Bytes}
    (hopen : decryptRequestChallenge C gameKey reqBlock addr = .ok challenge) :
    ∃ reply, buildChallengeBlock C gameKey reqBlock myKey addr none = .ok reply := by
  obtain ⟨ch, hch, -⟩ := bind_eq_ok hopen
  obtain ⟨hcounter, -⟩ := length_parsed hch
  rw [buildChallengeBlock, hch]
  by_cases henabled : ch.enabled = 0
  · exact ⟨_, if_pos henabled⟩
  · obtain ⟨c, hc⟩ := exists_aesGcmEncrypt C (length_hmac16 gameKey (myKey ++ ch.key)) (nonceFrom_ne hcounter addr)
      ((hmacSha256 gameKey challenge).take 16)
    show ∃ reply, (if ch.enabled = 0 then _ else _) = Except.ok reply
    rw [if_neg henabled, hopen]
    show ∃ reply, (aesGcmEncrypt C _ (nonceFrom addr ch.counter) _ >>= _) = Except.ok reply
    rw [hc]
    exact ⟨_, rfl⟩

theorem exists_withChallenge {env : Environment} {n : Int} (hcut : env.challengeLen = some n) (packet replyBlock : Bytes) :
    ∃ reply, withChallenge env packet replyBlock = .ok reply := by
  rw [withChallenge, hcut]
  split
  · exact ⟨_, rfl⟩
  · by_cases hfit : packet.length + (cutBlock replyBlock n).length ≤ MAX_BROWSE_REPLY_SIZE
    · exact ⟨_, if_pos hfit⟩
    · exact ⟨_, if_neg hfit⟩

/-- **A host whose numbers fit answers every request that it opens.** -/
theorem exists_buildBrowseReply {env : Environment} {p : Profile} {request : BrowseRequest} {myIp block addr challenge : Bytes}
    {o : ReplyArgs} {n : Int} (hip : myIp.length = 4) (hasked : p.asked request = some block)
    (hopen : decryptRequestChallenge C p.key block addr = .ok challenge) (haddr : replyBroadcast myIp o.broadcastAddr = .ok addr)
    (hcut : env.challengeLen = some n) (hlayout : p.layout = .from53 ∨ p.layout = .from510)
    (hfits : (p.sessionArgs myIp o []).Fits) (name : List Char) :
    ∃ reply, buildBrowseReply C env p request myIp name o = .ok reply := by
  obtain ⟨ch, hch, -⟩ := bind_eq_ok hopen
  have hskp : sessionKeyParam p request o = .ok (o.hostKey ++ ch.key) := by
    simp only [sessionKeyParam, hasked, hch]
    rfl
  have hfits' : (p.sessionArgs myIp o (o.hostKey ++ ch.key)).Fits := { hfits with }
  obtain ⟨info, hinfo⟩ := exists_buildSessionInfo hlayout hfits' name myIp
  obtain ⟨hlen, -⟩ := buildSessionInfo_eq_ok hip List.length_replicate List.length_replicate List.length_replicate hinfo
  obtain ⟨-, hhigh⟩ := SIZES_bounds p.layout
  have hsize : info.length < 256 ^ 4 := by
    rw [hlen]
    omega
  obtain ⟨replyBlock, hblock⟩ : ∃ replyBlock, buildChallengeBlock C p.key block o.hostKey addr none = .ok replyBlock :=
    exists_buildChallengeBlock hopen
  rw [buildBrowseReply, hskp]
  show ∃ reply, (buildSessionInfo p.layout name myIp _ >>= _) = Except.ok reply
  rw [hinfo]
  show ∃ reply, (packed 4 info.length >>= _) = Except.ok reply
  rw [packed_ok hsize]
  simp only [hasked]
  show ∃ reply, (replyBroadcast myIp o.broadcastAddr >>= _) = Except.ok reply
  rw [haddr]
  show ∃ reply, (buildChallengeBlock C p.key block o.hostKey addr none >>= _) = Except.ok reply
  rw [hblock]
  exact exists_withChallenge hcut _ _

/-- **A request is read back with its block.** -/
theorem parse_buildBrowseRequest {version : Nat} {counter challengeKey block : Bytes} {addr gameKey : Option Bytes}
    (hblock : requestBlock C version counter challengeKey addr gameKey = .ok block) (hlen : block.length = CHALLENGE_SIZE) :
    ∃ req, buildBrowseRequest C true version (some counter) (some challengeKey) addr gameKey = .ok req ∧
      parseBrowseRequest req =
        some ⟨0, SEARCH_CRITERIA_SIZE, List.replicate SEARCH_CRITERIA_SIZE 0, some block⟩ := by
  have hpack : packed 4 SEARCH_CRITERIA_SIZE = .ok (leBytes 4 SEARCH_CRITERIA_SIZE).reverse := packed_ok (by decide)
  generalize (leBytes 4 SEARCH_CRITERIA_SIZE).reverse = size at hpack
  generalize hcriteria : List.replicate SEARCH_CRITERIA_SIZE (0 : UInt8) = criteria
  have hsizeLen := length_packed hpack
  have hcriteriaLen : criteria.length = SEARCH_CRITERIA_SIZE := by rw [← hcriteria, List.length_replicate]
  have hbuilt : buildBrowseRequest C true version (some counter) (some challengeKey) addr gameKey =
      .ok ([0] ++ size ++ criteria ++ block) := by
    rw [buildBrowseRequest, hpack, hcriteria]
    show (requestBlock C version counter challengeKey addr gameKey >>= _) = _
    rw [hblock]
    rfl
  refine ⟨_, hbuilt, ?_⟩
  have hguard : ¬ ([0] ++ size ++ criteria ++ block).length < 5 := by
    simp only [List.length_append, List.length_singleton, hsizeLen]
    omega
  have hsizeAt : bytesAt ([0] ++ size ++ criteria ++ block) 1 4 = size := by
    rw [List.append_assoc, List.append_assoc, ← hsizeLen]
    exact List.take_left
  have hcriteriaAt : bytesAt ([0] ++ size ++ criteria ++ block) 5 SEARCH_CRITERIA_SIZE = criteria := by
    rw [bytesAt, List.append_assoc ([0] ++ size), List.drop_left' (by rw [List.length_append, hsizeLen]; rfl), ← hcriteriaLen,
      List.take_left]
  have hrest : ([0] ++ size ++ criteria ++ block).drop (5 + SEARCH_CRITERIA_SIZE) = block :=
    List.drop_left' (by rw [List.length_append, List.length_append, hsizeLen, hcriteriaLen]; rfl)
  have hfirst : byteAt ([0] ++ size ++ criteria ++ block) 0 = 0 := rfl
  rw [parseBrowseRequest, if_neg hguard, hfirst, if_neg (fun hne => hne rfl)]
  simp only [hsizeAt, read_packed hpack, if_true, hcriteriaAt, hrest, hlen, Nat.le_refl]
  rw [List.take_of_length_le (Nat.le_of_eq hlen)]

/-! ## Replies that are read -/

/-- **Every reply fits its datagram, and a console reads the session info from it, with both keys, but never a challenge.** -/
theorem reply_read {env : Environment} {p : Profile} {request : BrowseRequest} {myIp reply : Bytes} {name : List Char}
    {o : ReplyArgs} (hip : myIp.length = 4) (h : buildBrowseReply C env p request myIp name o = .ok reply) :
    ∃ skp info, sessionKeyParam p request o = .ok skp ∧
      buildSessionInfo p.layout name myIp (p.sessionArgs myIp o skp) = .ok info ∧ reply.length ≤ MAX_BROWSE_REPLY_SIZE ∧
      extractSessionInfo reply = some ⟨1, SIZES p.layout, info, none⟩ ∧
      (p.layout = .from510 → bytesAt info 0x4F1 32 = Ldn.fit 32 skp) := by
  obtain ⟨skp, info, size, rest, hskp, hinfo, hlen, hparam, hsize, rfl, hfit, hrest⟩ := buildBrowseReply_eq_ok hip h
  refine ⟨skp, info, hskp, hinfo, hfit, ?_, hparam⟩
  rw [extractSessionInfo_reply hsize hrest, hlen]

/-- The key and the profile of "swsh". -/
def swshKey : Bytes := [0x70, 0x31, 0x66, 0x72, 0x58, 0x71, 0x78, 0x6d, 0x65, 0x43, 0x5a, 0x57, 0x46, 0x76, 0x30, 0x58]

def swsh : Profile := { key := swshKey, challenge := true, layout := .from510, syscomm := some 6, appcomm := some 1 }

def roomIp : Bytes := [10, 13, 37, 100]

def roomBcast : Bytes := [10, 13, 37, 255]

theorem swsh_fits : (swsh.sessionArgs roomIp {} []).Fits := by
  constructor <;> decide

theorem reply_read_swsh : ∃ request reply info,
    buildBrowseReply AesGcm.aes {} swsh request roomIp "ROOM".toList {} = .ok reply ∧
      extractSessionInfo reply = some ⟨1, 0x511, info, none⟩ := by
  obtain ⟨block, tag, data, hblock, hlen, hparse, hopen⟩ := exists_requestBlock AesGcm.aes (rfl : swshKey.length = 16)
    (rfl : (List.replicate 16 (7 : UInt8)).length = 16) (rfl : (List.replicate 8 (0 : UInt8)).length = 8) (by decide : 2 < 256)
    roomBcast
  have hasked : swsh.asked ⟨0, SEARCH_CRITERIA_SIZE, [], some block⟩ = some block := rfl
  obtain ⟨reply, hreply⟩ := exists_buildBrowseReply (o := {}) rfl hasked hopen rfl
    (rfl : ({} : Environment).challengeLen = some 0x3A) (.inr rfl) swsh_fits "ROOM".toList
  obtain ⟨skp, info, -, -, -, hextract, -⟩ := reply_read rfl hreply
  exact ⟨_, reply, info, hreply, hextract⟩

end Lan
end Slp
