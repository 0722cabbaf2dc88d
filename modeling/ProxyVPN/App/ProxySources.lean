/-
Module: ProxyVPN.App.ProxySources
Purpose: The proxies `ProxyFinder` reads from its sources: the six formats of
  `fetchFromUrl` and the choice of sources in `fetchAllProxies`.
Trusted boundary: `Platform` stands for the decoding of bytes, Base64, the
  character classes of regular expressions, and the parsers of JSON and HTML.
  A body is what was read of a response before the connection failed, in whole
  lines for the formats that are read by line.
Main exports: ProxyType, ProxyInfo, Platform, Format, fetchFromUrl,
  ProxyFinder.fetchAllProxies, ProxyFinder.fetchAllProxies_type,
  ProxyInfo.key_eq_iff
-/
import Mathlib.Data.Rat.Defs
import ProxyVPN.Lib.Kotlin

namespace ProxyVPN

open Kotlin

inductive ProxyType where
  | socks5
  | mtproto
  | shadowsocks
  | vless
  deriving DecidableEq

/-- The name of the constant in the source. -/
def ProxyType.name : ProxyType → Text
  | socks5 => "SOCKS5".toList
  | mtproto => "MTPROTO".toList
  | shadowsocks => "SHADOWSOCKS".toList
  | vless => "VLESS".toList

/-- A proxy with the response time of its last test, in seconds. -/
structure ProxyInfo where
  host : Text
  port : Int
  type : ProxyType := .socks5
  secret : Text := []
  method : Option Text := none
  password : Option Text := none
  responseTime : ℚ := 99
  location : Option Text := none
  deriving DecidableEq

namespace ProxyInfo

/-- What `equals` compares. -/
def identity (proxy : ProxyInfo) : Text × Int × ProxyType :=
  (proxy.host, proxy.port, proxy.type)

/-- The text `"${host}:${port}"`. -/
def hostPort (proxy : ProxyInfo) : Text :=
  proxy.host ++ ':' :: (toString proxy.port).toList

/-- The text `"${host}:${port}:${type}"`. -/
def key (proxy : ProxyInfo) : Text :=
  proxy.hostPort ++ ':' :: proxy.type.name

end ProxyInfo

/-- The colon of a key separates the name of the type from what is behind it. -/
theorem ProxyType.colon_notMem_name (proxyType : ProxyType) :
    ':' ∉ proxyType.name := by
  cases proxyType <;> decide

/-- The name tells the type. -/
theorem ProxyType.name_inj {left right : ProxyType}
    (same : left.name = right.name) : left = right := by
  cases left <;> cases right <;> first | rfl | exact absurd same (by decide)

namespace ProxyInfo

/-- Read from its end, the text of host and port is cut in one way only. -/
theorem hostPort_eq_iff {left right : ProxyInfo} :
    left.hostPort = right.hostPort ↔
      left.host = right.host ∧ left.port = right.port := by
  constructor
  · intro same
    obtain ⟨host, port⟩ := colon_inj (colon_notMem_toString _)
      (colon_notMem_toString _) same
    exact ⟨host, toString_inj port⟩
  · rintro ⟨host, port⟩
    unfold hostPort
    rw [host, port]

/-- The text of a key tells host, port and type. -/
theorem key_eq_iff {left right : ProxyInfo} :
    left.key = right.key ↔ left.identity = right.identity := by
  constructor
  · intro same
    obtain ⟨hostPort, name⟩ := colon_inj (ProxyType.colon_notMem_name _)
      (ProxyType.colon_notMem_name _) same
    obtain ⟨host, port⟩ := hostPort_eq_iff.mp hostPort
    unfold identity
    rw [host, port, ProxyType.name_inj name]
  · intro same
    obtain ⟨host, rest⟩ := Prod.mk.inj same
    obtain ⟨port, type⟩ := Prod.mk.inj rest
    unfold key hostPort
    rw [host, port, type]

end ProxyInfo

/-! ## Libraries outside the source -/

/-- The server, port and secret of one object of a JSON list of proxies. -/
structure JsonServer where
  server : Text
  port : Int
  secret : Text

/-- The attributes a cell of a table of proxies is asked for. -/
structure TableCell where
  dataIp : Text
  dataPort : Text

/-- The first cells of a table row that have `data-ip` and `data-port`. -/
structure TableRow where
  ipCell : Option TableCell
  portCell : Option TableCell

structure Platform where
  /-- The text of bytes in UTF-8. -/
  utf8 : List UInt8 → Text
  /-- The bytes of a text in UTF-8. -/
  bytes : Text → List UInt8
  /-- `Base64.decode` with `DEFAULT`; `none` is an exception. -/
  base64 : List UInt8 → Option (List UInt8)
  /-- The class `\d` of regular expressions. -/
  regexDigit : Char → Bool
  /-- The class `\s` of regular expressions. -/
  regexSpace : Char → Bool
  /-- The objects of a JSON list, up to the first one that is none. -/
  jsonServers : Text → List JsonServer
  /-- The rows that `Jsoup` selects. -/
  tableRows : List UInt8 → List TableRow

/-- The text that a text in Base64 stands for. -/
def Platform.decode (platform : Platform) (text : Text) : Option Text :=
  (platform.base64 (platform.bytes text)).map platform.utf8

/-! ## Formats -/

/-- How the proxies are written in the body of a response. -/
inductive Format where
  | text
  | base64Ss
  | mtproto
  | mtprotoUrl
  | mtprotoJson
  | html
  deriving DecidableEq

/-- The range that most formats ask of a port. -/
def validPort (port : Int) : Prop :=
  1 ≤ port ∧ port ≤ 65535

instance (port : Int) : Decidable (validPort port) :=
  inferInstanceAs (Decidable (_ ∧ _))

/-- A line `host:port` of the format `text`. -/
def textLine (line : Text) : Option ProxyInfo :=
  let trimmed := trim line
  if ':' ∈ trimmed ∧ trimmed.head? ≠ some '#' ∧ trimmed.head? ≠ some '!' then
    let parts := trimmed.splitOn ':'
    match parts.head?, parts.getLast?.bind toIntOrNull with
    | some host, some port =>
        if 2 ≤ parts.length ∧ validPort port then
          some { host := host, port := port }
        else none
    | _, _ => none
  else none

/-- The proxy of `method:password` and `host:port`. The port is not asked to be
in range. -/
def shadowsocksEndpoint (methodPass ipPort : List Text) : Option ProxyInfo :=
  match methodPass, ipPort with
  | [method, password], [host, rest] =>
      (toIntOrNull (substringBefore '/' rest)).map fun port =>
        { host := host, port := port, type := .shadowsocks, secret := [],
          method := some method, password := some password }
  | _, _ => none

/-- A link `ss://` of the format `base64_ss`. Only the part before `@` is in
Base64, or all of it where there is no `@`. -/
def shadowsocksLine (platform : Platform) (line : Text) : Option ProxyInfo :=
  let trimmed := trim line
  if "ss://".toList.isPrefixOf trimmed then
    let base64Part := substringBefore '#' (trimmed.drop 5)
    match splitLimit2 '@' base64Part with
    | [auth, address] =>
        (platform.decode auth).bind fun authDecoded =>
          shadowsocksEndpoint (splitLimit2 ':' authDecoded)
            (splitLimit2 ':' address)
    | _ =>
        (platform.decode base64Part).bind fun decoded =>
          if '@' ∈ decoded ∧ ':' ∈ decoded then
            match splitLimit2 '@' decoded with
            | [auth, address] =>
                shadowsocksEndpoint (splitLimit2 ':' auth)
                  (splitLimit2 ':' address)
            | _ => none
          else none
  else none

/-- The proxy that the three formats of MTPROTO make of its parts. -/
def mtprotoEndpoint (server : Text) (port : Option Int) (secret : Text) :
    Option ProxyInfo :=
  match port with
  | some port =>
      if validPort port ∧ secret ≠ [] then
        some { host := server, port := port, type := .mtproto,
               secret := secret }
      else none
  | none => none

/-- A line `host:port:secret` of the format `mtproto`. -/
def mtprotoLine (line : Text) : Option ProxyInfo :=
  match (trim line).splitOn ':' with
  | [server, port, secret] => mtprotoEndpoint server (toIntOrNull port) secret
  | _ => none

/-- The groups of the expression of the format `mtproto_url` at the beginning of
a text. Each repetition ends at a character it cannot take, so there is nothing
to backtrack to. -/
def linkAt (platform : Platform) (text : Text) : Option (Text × Text × Text) :=
  ((["tg://", "http://t.me/", "https://t.me/"].map String.toList).findSome?
    fun scheme => scheme.isPrefixOf? text).bind fun afterScheme =>
  ("proxy?server=".toList.isPrefixOf? afterScheme).bind fun atServer =>
  ("&port=".toList.isPrefixOf? (atServer.dropWhile (· ≠ '&'))).bind fun atPort =>
  ("&secret=".toList.isPrefixOf? (atPort.dropWhile platform.regexDigit)).bind
    fun atSecret =>
      let server := atServer.takeWhile (· ≠ '&')
      let port := atPort.takeWhile platform.regexDigit
      let secret := atSecret.takeWhile fun char =>
        char ≠ '&' && !platform.regexSpace char
      if server ≠ [] ∧ port ≠ [] ∧ secret ≠ [] then some (server, port, secret)
      else none

/-- `Regex.find`: the first place where the expression matches. -/
def findLink (platform : Platform) : Text → Option (Text × Text × Text)
  | [] => none
  | first :: rest =>
      match linkAt platform (first :: rest) with
      | some groups => some groups
      | none => findLink platform rest

/-- A line of the format `mtproto_url`. -/
def mtprotoUrlLine (platform : Platform) (line : Text) : Option ProxyInfo :=
  (findLink platform (trim line)).bind fun (server, port, secret) =>
    mtprotoEndpoint server (toIntOrNull port) secret

/-- An object of the format `mtproto_json`. -/
def mtprotoJsonServer (object : JsonServer) : Option ProxyInfo :=
  if object.server ≠ [] then
    mtprotoEndpoint object.server (some object.port) object.secret
  else none

/-- A row of the format `html`. Both attributes are taken from the first cell. -/
def htmlRow (platform : Platform) (row : TableRow) : Option ProxyInfo :=
  match row.ipCell, row.portCell with
  | some cell, some _ =>
      (platform.decode (cell.dataIp ++ "====".toList)).bind fun ipDecoded =>
      (platform.decode (cell.dataPort ++ "====".toList)).bind fun portDecoded =>
      (toIntOrNull (trim portDecoded)).bind fun port =>
        let ip := trim ipDecoded
        if validPort port ∧ ip ≠ [] then some { host := ip, port := port }
        else none
  | _, _ => none

/-- The proxies of a body. -/
def fetchFromUrl (platform : Platform) (body : List UInt8) :
    Format → List ProxyInfo
  | .text => (readLines (platform.utf8 body)).filterMap textLine
  | .base64Ss =>
      let decoded := ((platform.base64 body).map platform.utf8).getD []
      (lineSequence decoded).filterMap (shadowsocksLine platform)
  | .mtproto => (readLines (platform.utf8 body)).filterMap mtprotoLine
  | .mtprotoUrl =>
      (readLines (platform.utf8 body)).filterMap (mtprotoUrlLine platform)
  | .mtprotoJson =>
      (platform.jsonServers (platform.utf8 body)).filterMap mtprotoJsonServer
  | .html => (platform.tableRows body).filterMap (htmlRow platform)

/-- The type of the proxies of a format. -/
def Format.proxyType : Format → ProxyType
  | text | html => .socks5
  | base64Ss => .shadowsocks
  | mtproto | mtprotoUrl | mtprotoJson => .mtproto

/-! ## Sources -/

namespace ProxyFinder

def socks5Sources : List (String × Format) :=
  [("https://raw.githubusercontent.com/TheSpeedX/SOCKS-List/master/socks5.txt",
      .text),
   ("https://raw.githubusercontent.com/TheSpeedX/SOCKS-List/master/http.txt",
      .text),
   ("https://raw.githubusercontent.com/monosans/proxy-list/main/proxies/socks5.txt",
      .text),
   ("https://raw.githubusercontent.com/monosans/proxy-list/main/proxies/http.txt",
      .text),
   ("https://raw.githubusercontent.com/hookzof/socks5_list/master/proxy.txt",
      .text),
   ("https://raw.githubusercontent.com/clarketm/proxy-list/master/proxy-list-raw.txt",
      .text),
   ("https://raw.githubusercontent.com/ShiftyTR/Proxy-List/master/socks5.txt",
      .text),
   ("https://raw.githubusercontent.com/roosterkid/openproxylist/main/SOCKS5_RAW.txt",
      .text)]

def mtprotoSources : List (String × Format) :=
  [("https://raw.githubusercontent.com/kort0881/telegram-proxy-collector/" ++
      "main/proxy_all_mtproto.txt", .mtprotoUrl)]

def shadowsocksSources : List (String × Format) :=
  [("https://raw.githubusercontent.com/mahdibland/ShadowsocksAggregator/master/Eternity",
      .base64Ss)]

/-- The sources of one fetch: of the list for SOCKS5 the next two. -/
def sourcesOf (sourceIndex : Nat) : ProxyType → List (String × Format)
  | .socks5 =>
      let start := sourceIndex % socks5Sources.length
      (List.range (min 2 socks5Sources.length)).filterMap fun i =>
        socks5Sources[(start + i) % socks5Sources.length]?
  | .mtproto => mtprotoSources
  | .vless => []
  | .shadowsocks => shadowsocksSources

/-- `fetchAllProxies`, with the index of the next source. -/
def fetchAllProxies (platform : Platform) (body : String → List UInt8)
    (sourceIndex : Nat) (proxyType : ProxyType) : List ProxyInfo × Nat :=
  let allProxies := (sourcesOf sourceIndex proxyType).flatMap
    fun (url, format) => fetchFromUrl platform (body url) format
  let next := match proxyType with
    | .socks5 =>
        (sourceIndex % socks5Sources.length + 2) % socks5Sources.length
    | _ => sourceIndex
  (distinctBy ProxyInfo.identity allProxies, next)

end ProxyFinder

/-! ## The type of what is fetched -/

/-- Each line function gives proxies of the one type of its format, from here to
`htmlRow_type`. -/
theorem shadowsocksEndpoint_type {methodPass ipPort : List Text}
    {proxy : ProxyInfo}
    (made : shadowsocksEndpoint methodPass ipPort = some proxy) :
    proxy.type = .shadowsocks := by
  unfold shadowsocksEndpoint at made
  split at made
  · rcases Option.map_eq_some_iff.mp made with ⟨port, _, rfl⟩
    rfl
  · cases made

theorem mtprotoEndpoint_type {server secret : Text} {port : Option Int}
    {proxy : ProxyInfo}
    (made : mtprotoEndpoint server port secret = some proxy) :
    proxy.type = .mtproto := by
  unfold mtprotoEndpoint at made
  split at made
  · rcases Option.ite_none_right_eq_some.mp made with ⟨_, ⟨⟩⟩
    rfl
  · cases made

theorem textLine_type {line : Text} {proxy : ProxyInfo}
    (made : textLine line = some proxy) : proxy.type = .socks5 := by
  unfold textLine at made
  rcases Option.ite_none_right_eq_some.mp made with ⟨_, parsed⟩
  dsimp only at parsed
  split at parsed
  · rcases Option.ite_none_right_eq_some.mp parsed with ⟨_, ⟨⟩⟩
    rfl
  · cases parsed

theorem shadowsocksLine_type {platform : Platform} {line : Text}
    {proxy : ProxyInfo} (made : shadowsocksLine platform line = some proxy) :
    proxy.type = .shadowsocks := by
  unfold shadowsocksLine at made
  rcases Option.ite_none_right_eq_some.mp made with ⟨_, link⟩
  dsimp only at link
  split at link
  · rcases Option.bind_eq_some_iff.mp link with ⟨_, _, made⟩
    exact shadowsocksEndpoint_type made
  · rcases Option.bind_eq_some_iff.mp link with ⟨_, _, decoded⟩
    rcases Option.ite_none_right_eq_some.mp decoded with ⟨_, made⟩
    split at made
    · exact shadowsocksEndpoint_type made
    · cases made

theorem mtprotoLine_type {line : Text} {proxy : ProxyInfo}
    (made : mtprotoLine line = some proxy) : proxy.type = .mtproto := by
  unfold mtprotoLine at made
  split at made
  · exact mtprotoEndpoint_type made
  · cases made

theorem mtprotoUrlLine_type {platform : Platform} {line : Text}
    {proxy : ProxyInfo} (made : mtprotoUrlLine platform line = some proxy) :
    proxy.type = .mtproto := by
  rcases Option.bind_eq_some_iff.mp made with ⟨_, _, made⟩
  exact mtprotoEndpoint_type made

theorem mtprotoJsonServer_type {object : JsonServer} {proxy : ProxyInfo}
    (made : mtprotoJsonServer object = some proxy) : proxy.type = .mtproto := by
  rcases Option.ite_none_right_eq_some.mp made with ⟨_, made⟩
  exact mtprotoEndpoint_type made

theorem htmlRow_type {platform : Platform} {row : TableRow} {proxy : ProxyInfo}
    (made : htmlRow platform row = some proxy) : proxy.type = .socks5 := by
  unfold htmlRow at made
  split at made
  · rcases Option.bind_eq_some_iff.mp made with ⟨_, _, made⟩
    rcases Option.bind_eq_some_iff.mp made with ⟨_, _, made⟩
    rcases Option.bind_eq_some_iff.mp made with ⟨_, _, made⟩
    rcases Option.ite_none_right_eq_some.mp made with ⟨_, ⟨⟩⟩
    rfl
  · cases made

/-- Every format makes proxies of one type. -/
theorem fetchFromUrl_type {platform : Platform} {body : List UInt8}
    {format : Format} {proxy : ProxyInfo}
    (fetched : proxy ∈ fetchFromUrl platform body format) :
    proxy.type = format.proxyType := by
  cases format with
  | text =>
      rcases List.mem_filterMap.mp fetched with ⟨_, _, made⟩
      exact textLine_type made
  | base64Ss =>
      rcases List.mem_filterMap.mp fetched with ⟨_, _, made⟩
      exact shadowsocksLine_type made
  | mtproto =>
      rcases List.mem_filterMap.mp fetched with ⟨_, _, made⟩
      exact mtprotoLine_type made
  | mtprotoUrl =>
      rcases List.mem_filterMap.mp fetched with ⟨_, _, made⟩
      exact mtprotoUrlLine_type made
  | mtprotoJson =>
      rcases List.mem_filterMap.mp fetched with ⟨_, _, made⟩
      exact mtprotoJsonServer_type made
  | html =>
      rcases List.mem_filterMap.mp fetched with ⟨_, _, made⟩
      exact htmlRow_type made

namespace ProxyFinder

/-- The sources for a type are in formats of that type. -/
theorem sourcesOf_type {sourceIndex : Nat} {proxyType : ProxyType}
    {source : String × Format}
    (member : source ∈ sourcesOf sourceIndex proxyType) :
    source.2.proxyType = proxyType := by
  cases proxyType with
  | socks5 =>
      rcases List.mem_filterMap.mp member with ⟨_, _, found⟩
      have inside := List.mem_of_getElem? found
      have typed : ∀ source ∈ socks5Sources,
          source.2.proxyType = ProxyType.socks5 := by
        decide
      exact typed source inside
  | mtproto =>
      rcases List.mem_singleton.mp member with rfl
      rfl
  | shadowsocks =>
      rcases List.mem_singleton.mp member with rfl
      rfl
  | vless => cases member

/-- A fetch for a type gives proxies of that type. -/
theorem fetchAllProxies_type {platform : Platform}
    {body : String → List UInt8} {sourceIndex : Nat} {proxyType : ProxyType}
    {proxy : ProxyInfo}
    (fetched : proxy ∈
      (fetchAllProxies platform body sourceIndex proxyType).1) :
    proxy.type = proxyType := by
  have member := mem_of_mem_distinctBy fetched
  rcases List.mem_flatMap.mp member with ⟨⟨url, format⟩, source, fetched⟩
  have formatType := sourcesOf_type source
  calc
    proxy.type = format.proxyType := fetchFromUrl_type fetched
    _ = proxyType := formatType

end ProxyFinder

end ProxyVPN
