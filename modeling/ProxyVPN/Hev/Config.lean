/-
Module: ProxyVPN.Hev.Config
Purpose: The configuration of the tunnel: the settings with their defaults, the
  reading of each section of a document, and the sizes of the session stacks
  that are computed from what was read.
Trusted boundary: human-reviewed model; `Platform` gives the width of a long,
  the reading of addresses, byte order, and numbers in any base.  The text of a
  document is the array of nodes that the loader makes of it.
Main exports: HevConfig, HevConfig.reset, HevConfig.parseMisc,
  HevConfig.parseDoc
-/
import ProxyVPN.Lib.Yaml
import ProxyVPN.Hev.Lwip

namespace ProxyVPN

open Yaml CText

def UDP_BUF_SIZE : Int := 1500

def TASK_STACK_SIZE : Int := 20480

inductive HevLoggerLevel where
  | debug
  | info
  | warn
  | error
deriving DecidableEq

/-- `struct _HevConfigServer`. -/
structure HevConfigServer where
  user : Option (List UInt8) := none
  pass : Option (List UInt8) := none
  mark : Nat := 0
  udpInUdp : Int := 0
  port : Nat := 0
  pipeline : Nat := 0
  fastopen : Nat := 0
  udpAddr : List UInt8 := []
  addr : List UInt8 := []
deriving DecidableEq

/-! ## The settings, with the values that `hev_config_reset` gives them -/

structure HevTunnelConfig where
  tunName : List UInt8 := []
  tunMtu : Nat := 8500
  multiQueue : Int := 0
  icmp : Int := 0
  tunIpv4Address : List UInt8 := []
  tunIpv6Address : List UInt8 := []
  tunPostUpScript : List UInt8 := []
  tunPreDownScript : List UInt8 := []
deriving DecidableEq

structure HevMapdnsConfig where
  mapdnsAddress : BitVec 32 := 0
  mapdnsPort : Int := 0
  mapdnsNetwork : BitVec 32 := 0
  mapdnsNetmask : BitVec 32 := 0
  mapdnsCacheSize : Int := 0
deriving DecidableEq

structure HevMiscConfig where
  logFile : List UInt8 := []
  pidFile : List UInt8 := []
  maxSessionCount : Int := 0
  taskStackSize : Int := 86016
  tcpBufferSize : Int := 65536
  udpRecvBufferSize : Int := 524288
  udpCopyBufferNums : Int := 10
  connectTimeout : Int := 10000
  tcpReadWriteTimeout : Int := 300000
  udpReadWriteTimeout : Int := 60000
  limitNofile : Int := 65535
  logLevel : HevLoggerLevel := .warn
deriving DecidableEq

/-- The static variables, by the section that sets them. -/
structure HevConfig where
  tunnel : HevTunnelConfig := {}
  srv : HevConfigServer := {}
  mapdns : HevMapdnsConfig := {}
  misc : HevMiscConfig := {}
deriving DecidableEq

namespace HevConfig

/-- What the C library and the processor decide. -/
structure Platform where
  longBits : Nat
  inetPton : List UInt8 → Option (BitVec 32)
  ntohl : BitVec 32 → BitVec 32
  /-- `strtoul` with base 0. -/
  strtoulAuto : List UInt8 → Nat

def reset : HevConfig := {}

variable (platform : Platform) (doc : Document)

/-- `strtoul` as it is stored in an `int`. -/
def Platform.toInt (value : List UInt8) : Int :=
  toInt32 (strtoul platform.longBits value)

/-! ## The section tunnel -/

def parseTunnelIpv4 (base : Node) (tunnel : HevTunnelConfig) : HevTunnelConfig :=
  match base with
  | .mapping pairs =>
      doc.eachPair Node.text? (fun (tunnel : HevTunnelConfig) key value =>
        if key = ascii "address" then
          { tunnel with tunIpv4Address := value.take 15 }
        else tunnel) pairs tunnel
  | _ => tunnel

def parseTunnelIpv6 (base : Node) (tunnel : HevTunnelConfig) : HevTunnelConfig :=
  match base with
  | .mapping pairs =>
      doc.eachPair Node.text? (fun (tunnel : HevTunnelConfig) key value =>
        if key = ascii "address" then
          { tunnel with tunIpv6Address := value.take 63 }
        else tunnel) pairs tunnel
  | _ => tunnel

/-- What a scalar of the section sets. -/
def tunnelScalar (tunnel : HevTunnelConfig) (key value : List UInt8) : HevTunnelConfig :=
  if key = ascii "name" then
    { tunnel with tunName := value.take 63 }
  else if key = ascii "mtu" then
    { tunnel with tunMtu := strtoul platform.longBits value % 2 ^ 32 }
  else if key = ascii "multi-queue" then
    { tunnel with multiQueue := strcasecmp value (ascii "false") }
  else if key = ascii "ipv4" then
    { tunnel with tunIpv4Address := value.take 15 }
  else if key = ascii "ipv6" then
    { tunnel with tunIpv6Address := value.take 63 }
  else if key = ascii "icmp" then
    { tunnel with
      icmp := if strcasecmp value (ascii "reply") = 0 then 1 else 0 }
  else if key = ascii "post-up-script" then
    { tunnel with tunPostUpScript := value.take 1023 }
  else if key = ascii "pre-down-script" then
    { tunnel with tunPreDownScript := value.take 1023 }
  else tunnel

/-- What a pair of the section sets. The addresses may be mappings. -/
def tunnelPair (tunnel : HevTunnelConfig) (key : List UInt8) (node : Node) :
    HevTunnelConfig :=
  match node.text? with
  | some value => tunnelScalar platform tunnel key value
  | none =>
      if key = ascii "ipv4" then parseTunnelIpv4 doc node tunnel
      else if key = ascii "ipv6" then parseTunnelIpv6 doc node tunnel
      else tunnel

def parseTunnel (base : Option Node) (tunnel : HevTunnelConfig) : Int × HevTunnelConfig :=
  match base with
  | some (.mapping pairs) =>
      (0, doc.eachPair some (tunnelPair platform doc) pairs tunnel)
  | _ => (-1, tunnel)

/-! ## The section socks5 -/

/-- The variables of `hev_config_parse_socks5`. -/
structure Socks5Values where
  addr : Option (List UInt8) := none
  port : Option (List UInt8) := none
  udpm : Option (List UInt8) := none
  udpa : Option (List UInt8) := none
  user : Option (List UInt8) := none
  pass : Option (List UInt8) := none
  mark : Option (List UInt8) := none
  pipe : Option (List UInt8) := none
  tfso : Option (List UInt8) := none

def socks5Pair (values : Socks5Values) (key value : List UInt8) :
    Socks5Values :=
  if key = ascii "port" then { values with port := some value }
  else if key = ascii "address" then { values with addr := some value }
  else if key = ascii "udp" then { values with udpm := some value }
  else if key = ascii "udp-address" then { values with udpa := some value }
  else if key = ascii "pipeline" then { values with pipe := some value }
  else if key = ascii "username" then { values with user := some value }
  else if key = ascii "password" then { values with pass := some value }
  else if key = ascii "mark" then { values with mark := some value }
  else if key = ascii "tcp-fastopen" then { values with tfso := some value }
  else values

def isText (value : Option (List UInt8)) (text : String) : Bool :=
  value.any fun value => strcasecmp value (ascii text) = 0

/-- The server after the values of a section were accepted. -/
def serverOf (values : Socks5Values) (addr port : List UInt8)
    (srv : HevConfigServer) : HevConfigServer :=
  let srv := { srv with
    addr := addr.take 255
    port := strtoul platform.longBits port % 2 ^ 16 }
  let srv := if isText values.pipe "true" then { srv with pipeline := 1 } else srv
  let srv := if isText values.udpm "udp" then { srv with udpInUdp := 1 } else srv
  let srv := match values.udpa with
    | some udpa => { srv with udpAddr := udpa.take 255 }
    | none => srv
  let srv := match values.user, values.pass with
    | some user, some pass =>
        { srv with user := some (user.take 255), pass := some (pass.take 255) }
    | _, _ => srv
  let srv := match values.mark with
    | some mark => { srv with mark := platform.strtoulAuto mark % 2 ^ 32 }
    | none => srv
  match values.tfso with
  | some _ =>
      { srv with fastopen := if isText values.tfso "true" then 1 else 0 }
  | none => srv

/-- Port and address are required, and user and password go together. -/
def parseSocks5 (base : Option Node) (srv : HevConfigServer) :
    Int × HevConfigServer :=
  match base with
  | some (.mapping pairs) =>
      let values := doc.eachPair Node.text? socks5Pair pairs {}
      match values.port, values.addr with
      | some port, some addr =>
          if values.user.isSome ≠ values.pass.isSome then (-1, srv)
          else (0, serverOf platform values addr port srv)
      | _, _ => (-1, srv)
  | _ => (-1, srv)

/-! ## The section mapdns -/

def mapdnsPair (mapdns : HevMapdnsConfig) (key value : List UInt8) : HevMapdnsConfig :=
  if key = ascii "address" then
    { mapdns with
      mapdnsAddress := (platform.inetPton value).getD mapdns.mapdnsAddress }
  else if key = ascii "port" then
    { mapdns with mapdnsPort := platform.toInt value }
  else if key = ascii "network" then
    { mapdns with
      mapdnsNetwork := (platform.inetPton value).getD mapdns.mapdnsNetwork }
  else if key = ascii "netmask" then
    { mapdns with
      mapdnsNetmask := (platform.inetPton value).getD mapdns.mapdnsNetmask }
  else if key = ascii "cache-size" then
    { mapdns with mapdnsCacheSize := platform.toInt value }
  else mapdns

def parseMapdns (base : Option Node) (mapdns : HevMapdnsConfig) : Int × HevMapdnsConfig :=
  match base with
  | some (.mapping pairs) =>
      let mapdns := doc.eachPair Node.text? (mapdnsPair platform) pairs mapdns
      (0, { mapdns with
        mapdnsNetwork := platform.ntohl mapdns.mapdnsNetwork
        mapdnsNetmask := platform.ntohl mapdns.mapdnsNetmask })
  | _ => (-1, mapdns)

/-! ## The section misc -/

def parseLogLevel (value : List UInt8) : HevLoggerLevel :=
  if value = ascii "debug" then .debug
  else if value = ascii "info" then .info
  else if value = ascii "error" then .error
  else .warn

/-- The settings with the timeouts that `hev_config_parse_misc` collects. -/
structure MiscValues where
  misc : HevMiscConfig
  tcpRwTimeout : Int := -1
  udpRwTimeout : Int := -1
  rwTimeout : Int := -1

def miscPair (values : MiscValues) (key value : List UInt8) : MiscValues :=
  let misc := values.misc
  if key = ascii "task-stack-size" then
    { values with
      misc := { misc with taskStackSize := platform.toInt value } }
  else if key = ascii "tcp-buffer-size" then
    { values with
      misc := { misc with tcpBufferSize := platform.toInt value } }
  else if key = ascii "udp-recv-buffer-size" then
    { values with
      misc := { misc with udpRecvBufferSize := platform.toInt value } }
  else if key = ascii "udp-copy-buffer-nums" then
    { values with
      misc := { misc with udpCopyBufferNums := platform.toInt value } }
  else if key = ascii "max-session-count" then
    { values with
      misc := { misc with maxSessionCount := platform.toInt value } }
  else if key = ascii "connect-timeout" then
    { values with
      misc := { misc with connectTimeout := platform.toInt value } }
  else if key = ascii "read-write-timeout" then
    { values with rwTimeout := platform.toInt value }
  else if key = ascii "tcp-read-write-timeout" then
    { values with tcpRwTimeout := platform.toInt value }
  else if key = ascii "udp-read-write-timeout" then
    { values with udpRwTimeout := platform.toInt value }
  else if key = ascii "pid-file" then
    { values with misc := { misc with pidFile := value.take 1023 } }
  else if key = ascii "log-file" then
    { values with misc := { misc with logFile := value.take 1023 } }
  else if key = ascii "log-level" then
    { values with misc := { misc with logLevel := parseLogLevel value } }
  else if key = ascii "limit-nofile" then
    { values with
      misc := { misc with
        limitNofile := toInt32 (strtol platform.longBits value) } }
  else values

/-- The timeouts that are set after the loop, where they are positive. -/
def setTimeouts (values : MiscValues) : HevMiscConfig :=
  let tcpRwTimeout :=
    if values.tcpRwTimeout ≤ 0 then values.rwTimeout else values.tcpRwTimeout
  let udpRwTimeout :=
    if values.udpRwTimeout ≤ 0 then values.rwTimeout else values.udpRwTimeout
  let misc := values.misc
  let misc :=
    if 0 < tcpRwTimeout then { misc with tcpReadWriteTimeout := tcpRwTimeout }
    else misc
  if 0 < udpRwTimeout then { misc with udpReadWriteTimeout := udpRwTimeout }
  else misc

def parseMisc (base : Option Node) (misc : HevMiscConfig) : Int × HevMiscConfig :=
  match base with
  | some (.mapping pairs) =>
      (0, setTimeouts
        (doc.eachPair Node.text? (miscPair platform) pairs { misc := misc }))
  | _ => (-1, misc)

/-! ## The document -/

def parseSection (key : List UInt8) (node : Option Node) (config : HevConfig) :
    Int × HevConfig :=
  if key = ascii "tunnel" then
    let (res, tunnel) := parseTunnel platform doc node config.tunnel
    (res, { config with tunnel := tunnel })
  else if key = ascii "socks5" then
    let (res, srv) := parseSocks5 platform doc node config.srv
    (res, { config with srv := srv })
  else if key = ascii "mapdns" then
    let (res, mapdns) := parseMapdns platform doc node config.mapdns
    (res, { config with mapdns := mapdns })
  else if key = ascii "misc" then
    let (res, misc) := parseMisc platform doc node config.misc
    (res, { config with misc := misc })
  else (0, config)

/-- The loop over the sections. A section that fails ends it with -1. -/
def parseSections : List (Int × Int) → HevConfig → Int × HevConfig
  | [], config => (0, config)
  | (keyIndex, valueIndex) :: rest, config =>
      if keyIndex = 0 ∨ valueIndex = 0 then parseSections rest config
      else
        match doc.textAt keyIndex with
        | none => (0, config)
        | some key =>
            let (res, config) :=
              parseSection platform doc key (doc.getNode valueIndex) config
            if res < 0 then (-1, config) else parseSections rest config

/-- The sizes after all sections: the TCP buffer is cut, and the stack is
raised to what the larger of the two buffers asks for. -/
def fitStack (misc : HevMiscConfig) : HevMiscConfig :=
  let tcpBufferSize :=
    if misc.tcpBufferSize > (Lwip.TCP_SND_BUF : Int) then
      (Lwip.TCP_SND_BUF : Int)
    else misc.tcpBufferSize
  let udpBufferSize := toInt32 (UDP_BUF_SIZE * misc.udpCopyBufferNums)
  let minTaskStackSize :=
    if tcpBufferSize > udpBufferSize then
      toInt32 (TASK_STACK_SIZE + tcpBufferSize)
    else toInt32 (TASK_STACK_SIZE + udpBufferSize)
  { misc with
    tcpBufferSize := tcpBufferSize
    taskStackSize :=
      if misc.taskStackSize < minTaskStackSize then minTaskStackSize
      else misc.taskStackSize }

def parseDoc (config : HevConfig) : Int × HevConfig :=
  match doc.getRootNode with
  | some (.mapping pairs) =>
      let (res, config) := parseSections platform doc pairs config
      if res < 0 then (-1, config)
      else (0, { config with misc := fitStack config.misc })
  | _ => (-1, config)

end HevConfig

end ProxyVPN
