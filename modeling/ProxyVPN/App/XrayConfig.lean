/-
Module: ProxyVPN.App.XrayConfig
Purpose: The configuration that startXrayCore of TunnelVpnService.kt writes by
  putting its arguments into four texts.  It is the one that is meant for a
  proxy of a kind if and only if the method and the password tell that kind and
  no string that is put between quotation marks has a character that is special
  there.
Trusted boundary: human-reviewed model; `resolve` stands for `InetAddress`.
Main exports: XrayTarget, XrayTarget.configJson, XrayTarget.CarriesProxy,
  XrayTarget.Marked, XrayTarget.carries_proxy_iff
-/
import ProxyVPN.App.ProxySources
import ProxyVPN.Lib.JsonHoles

namespace ProxyVPN

open Kotlin Json JsonText

/-- The arguments of `startXrayCore`. -/
structure XrayTarget where
  remoteHost : Text
  remotePort : Int
  method : Option Text
  password : Option Text
  localPort : Int

namespace XrayTarget

/-- What the texts refer to, apart from `outboundJson`. -/
inductive Variable where
  | resolvedIp
  | remoteHost
  | remotePort
  | method
  | password
  | localPort
deriving DecidableEq

/-! ## The texts -/

def text (fixed : String) : TemplatePart Variable :=
  .fixed fixed.toList

/-- What follows on the next line of a raw string. -/
def line (indent : Nat) (fixed : String) : TemplatePart Variable :=
  .fixed ('\n' :: (List.replicate indent ' ' ++ fixed.toList))

def vlessOutbound : List (TemplatePart Variable) :=
  [ text "\x7b",
    line 20 "\"tag\": \"proxy\",",
    line 20 "\"protocol\": \"vless\",",
    line 20 "\"settings\": \x7b",
    line 24 "\"vnext\": [\x7b",
    line 28 "\"address\": \"", .hole .resolvedIp, text "\",",
    line 28 "\"port\": ", .hole .remotePort, text ",",
    line 28 "\"users\": [\x7b \"id\": \"", .hole .password,
      text "\", \"encryption\": \"none\", \"level\": 0 \x7d]",
    line 24 "\x7d]",
    line 20 "\x7d,",
    line 20 "\"streamSettings\": \x7b",
    line 24 "\"network\": \"ws\",",
    line 24 "\"security\": \"tls\",",
    line 24 "\"tlsSettings\": \x7b",
    line 28 "\"serverName\": \"", .hole .remoteHost, text "\",",
    line 28 "\"allowInsecure\": false,",
    line 28 "\"fingerprint\": \"chrome\"",
    line 24 "\x7d,",
    line 24 "\"wsSettings\": \x7b",
    line 28 "\"path\": \"/?ed=2048\",",
    line 28 "\"host\": \"", .hole .remoteHost, text "\"",
    line 24 "\x7d,",
    line 24 "\"sockopt\": \x7b \"dialerProxy\": \"fragment-out\", ",
      text "\"tcpNoDelay\": true \x7d",
    line 20 "\x7d",
    line 16 "\x7d,",
    line 16 "\x7b",
    line 20 "\"tag\": \"fragment-out\",",
    line 20 "\"protocol\": \"freedom\",",
    line 20 "\"settings\": \x7b",
    line 24 "\"fragment\": \x7b \"packets\": \"1-3\", ",
      text "\"length\": \"20-50\", \"interval\": \"10-20\" \x7d",
    line 20 "\x7d,",
    line 20 "\"streamSettings\": \x7b \"sockopt\": \x7b \"tcpNoDelay\": true ",
      text "\x7d \x7d",
    line 16 "\x7d" ]

def shadowsocksOutbound : List (TemplatePart Variable) :=
  [ text "\x7b",
    line 20 "\"tag\": \"proxy\",",
    line 20 "\"protocol\": \"shadowsocks\",",
    line 20 "\"settings\": \x7b",
    line 24 "\"servers\": [\x7b",
    line 28 "\"address\": \"", .hole .resolvedIp, text "\",",
    line 28 "\"port\": ", .hole .remotePort, text ",",
    line 28 "\"method\": \"", .hole .method, text "\",",
    line 28 "\"password\": \"", .hole .password, text "\",",
    line 28 "\"level\": 0",
    line 24 "\x7d]",
    line 20 "\x7d",
    line 16 "\x7d" ]

def socksOutbound : List (TemplatePart Variable) :=
  [ text "\x7b",
    line 20 "\"tag\": \"proxy\",",
    line 20 "\"protocol\": \"socks\",",
    line 20 "\"settings\": \x7b",
    line 24 "\"servers\": [\x7b",
    line 28 "\"address\": \"", .hole .resolvedIp, text "\",",
    line 28 "\"port\": ", .hole .remotePort,
    line 24 "\x7d]",
    line 20 "\x7d",
    line 16 "\x7d" ]

/-- The configuration up to `$outboundJson`. -/
def configHead : List (TemplatePart Variable) :=
  [ text "\x7b",
    line 16 "\"log\": \x7b \"loglevel\": \"debug\" \x7d,",
    line 16 "\"dns\": \x7b \"servers\": [",
      text "\"https+local://8.8.8.8/dns-query\"] \x7d,",
    line 16 "\"inbounds\": [\x7b",
    line 20 "\"port\": ", .hole .localPort, text ",",
    line 20 "\"listen\": \"127.0.0.1\",",
    line 20 "\"protocol\": \"socks\",",
    line 20 "\"settings\": \x7b \"udp\": true \x7d,",
    line 20 "\"sniffing\": \x7b \"enabled\": true, ",
      text "\"destOverride\": [\"http\", \"tls\"] \x7d",
    line 16 "\x7d],",
    line 16 "\"routing\": \x7b",
    line 20 "\"domainStrategy\": \"AsIs\",",
    line 20 "\"rules\": [",
    line 24 "\x7b \"type\": \"field\", \"network\": \"udp\", ",
      text "\"port\": \"53\", \"outboundTag\": \"dns-out\" \x7d,",
    line 24 "\x7b \"type\": \"field\", \"network\": \"tcp\", ",
      text "\"outboundTag\": \"proxy\" \x7d,",
    line 24 "\x7b \"type\": \"field\", \"network\": \"udp\", ",
      text "\"outboundTag\": \"proxy\" \x7d",
    line 20 "]",
    line 16 "\x7d,",
    line 16 "\"outbounds\": [",
    line 20 "" ]

/-- The configuration behind `$outboundJson`. -/
def configTail : List (TemplatePart Variable) :=
  [ text ",",
    line 20 "\x7b \"tag\": \"dns-out\", \"protocol\": \"dns\" \x7d",
    line 16 "]",
    line 12 "\x7d" ]

/-! ## What startXrayCore writes -/

/-- What a text shows of a variable that may be `null`. -/
def interpolate (nullable : Option Text) : Text :=
  nullable.getD "null".toList

/-- The values of the variables.  `resolve` gives nothing where `InetAddress`
throws. -/
def values (resolve : Text → Option Text) (self : XrayTarget) :
    Variable → Text
  | .resolvedIp => (resolve self.remoteHost).getD self.remoteHost
  | .remoteHost => self.remoteHost
  | .remotePort => (toString self.remotePort).toList
  | .method => interpolate self.method
  | .password => interpolate self.password
  | .localPort => (toString self.localPort).toList

/-- The cases of `startXrayCore`. -/
inductive Protocol where
  | vless
  | shadowsocks
  | socks

def protocol (self : XrayTarget) : Protocol :=
  if self.method = some "VLESS".toList then .vless
  else if self.method ≠ none ∧ self.password ≠ none then .shadowsocks
  else .socks

/-- The arguments tell this kind: VLESS by its name in place of a method, and
Shadowsocks by a method that is not that name, with a password. -/
def Marked (self : XrayTarget) : Protocol → Prop
  | .vless => self.method = some "VLESS".toList
  | .shadowsocks =>
      self.method ≠ some "VLESS".toList ∧ self.method ≠ none ∧ self.password ≠ none
  | .socks =>
      self.method ≠ some "VLESS".toList ∧ (self.method = none ∨ self.password = none)

theorem marked_iff {self : XrayTarget} {kind : Protocol} :
    self.Marked kind ↔ self.protocol = kind := by
  unfold protocol
  by_cases vless : self.method = some "VLESS".toList
  · rw [if_pos vless]
    cases kind with
    | vless => exact iff_of_true vless rfl
    | shadowsocks => exact iff_of_false (fun marked => marked.1 vless) (by rintro ⟨⟩)
    | socks => exact iff_of_false (fun marked => marked.1 vless) (by rintro ⟨⟩)
  · rw [if_neg vless]
    by_cases both : self.method ≠ none ∧ self.password ≠ none
    · rw [if_pos both]
      cases kind with
      | vless => exact iff_of_false vless (by rintro ⟨⟩)
      | shadowsocks => exact iff_of_true ⟨vless, both⟩ rfl
      | socks => exact iff_of_false (fun marked => marked.2.elim both.1 both.2) (by rintro ⟨⟩)
    · rw [if_neg both]
      cases kind with
      | vless => exact iff_of_false vless (by rintro ⟨⟩)
      | shadowsocks => exact iff_of_false (fun marked => both marked.2) (by rintro ⟨⟩)
      | socks => exact iff_of_true ⟨vless, by tauto⟩ rfl

def outboundJson : Protocol → List (TemplatePart Variable)
  | .vless => vlessOutbound
  | .shadowsocks => shadowsocksOutbound
  | .socks => socksOutbound

def configJson (resolve : Text → Option Text) (self : XrayTarget) : Text :=
  fill (self.values resolve)
    (configHead ++ outboundJson self.protocol ++ configTail)

/-! ## The configuration that is meant -/

/-- A document whose strings and numbers may be variables. -/
abbrev Document := Json (Text ⊕ Variable)

def string (fixed : String) : Document :=
  .string (.inl fixed.toList)

def number (fixed : String) : Document :=
  .number (.inl fixed.toList)

def member (name : String) (value : Document) :
    (Text ⊕ Variable) × Document :=
  (.inl name.toList, value)

def vlessProxy : Document :=
  .object
    [ member "tag" (string "proxy"),
      member "protocol" (string "vless"),
      member "settings" <| .object
        [ member "vnext" <| .array
          [ .object
            [ member "address" (.string (.inr .resolvedIp)),
              member "port" (.number (.inr .remotePort)),
              member "users" <| .array
                [ .object
                  [ member "id" (.string (.inr .password)),
                    member "encryption" (string "none"),
                    member "level" (number "0") ] ] ] ] ],
      member "streamSettings" <| .object
        [ member "network" (string "ws"),
          member "security" (string "tls"),
          member "tlsSettings" <| .object
            [ member "serverName" (.string (.inr .remoteHost)),
              member "allowInsecure" (.bool false),
              member "fingerprint" (string "chrome") ],
          member "wsSettings" <| .object
            [ member "path" (string "/?ed=2048"),
              member "host" (.string (.inr .remoteHost)) ],
          member "sockopt" <| .object
            [ member "dialerProxy" (string "fragment-out"),
              member "tcpNoDelay" (.bool true) ] ] ]

def shadowsocksProxy : Document :=
  .object
    [ member "tag" (string "proxy"),
      member "protocol" (string "shadowsocks"),
      member "settings" <| .object
        [ member "servers" <| .array
          [ .object
            [ member "address" (.string (.inr .resolvedIp)),
              member "port" (.number (.inr .remotePort)),
              member "method" (.string (.inr .method)),
              member "password" (.string (.inr .password)),
              member "level" (number "0") ] ] ] ]

def socksProxy : Document :=
  .object
    [ member "tag" (string "proxy"),
      member "protocol" (string "socks"),
      member "settings" <| .object
        [ member "servers" <| .array
          [ .object
            [ member "address" (.string (.inr .resolvedIp)),
              member "port" (.number (.inr .remotePort)) ] ] ] ]

def fragmentOut : Document :=
  .object
    [ member "tag" (string "fragment-out"),
      member "protocol" (string "freedom"),
      member "settings" <| .object
        [ member "fragment" <| .object
          [ member "packets" (string "1-3"),
            member "length" (string "20-50"),
            member "interval" (string "10-20") ] ],
      member "streamSettings" <| .object
        [ member "sockopt" <| .object
          [ member "tcpNoDelay" (.bool true) ] ] ]

def dnsOut : Document :=
  .object
    [ member "tag" (string "dns-out"),
      member "protocol" (string "dns") ]

/-- The outbound tagged `proxy`. -/
def proxyOutbound : Protocol → Document
  | .vless => vlessProxy
  | .shadowsocks => shadowsocksProxy
  | .socks => socksProxy

/-- The other outbounds: nothing in them is a variable. -/
def otherOutbounds : Protocol → List Document
  | .vless => [fragmentOut, dnsOut]
  | .shadowsocks => [dnsOut]
  | .socks => [dnsOut]

def outbounds (protocol : Protocol) : Document :=
  .array (proxyOutbound protocol :: otherOutbounds protocol)

/-- What programs on the device connect to, on the local port. -/
def inbounds : Document :=
  .array
    [ .object
      [ member "port" (.number (.inr .localPort)),
        member "listen" (string "127.0.0.1"),
        member "protocol" (string "socks"),
        member "settings" <| .object [ member "udp" (.bool true) ],
        member "sniffing" <| .object
          [ member "enabled" (.bool true),
            member "destOverride" <| .array
              [ string "http", string "tls" ] ] ] ]

def rule (members : List ((Text ⊕ Variable) × Document)) (tag : String) :
    Document :=
  .object (member "type" (string "field") :: members ++
    [ member "outboundTag" (string tag) ])

def routing : Document :=
  .object
    [ member "domainStrategy" (string "AsIs"),
      member "rules" <| .array
        [ rule [ member "network" (string "udp"), member "port" (string "53") ]
            "dns-out",
          rule [ member "network" (string "tcp") ] "proxy",
          rule [ member "network" (string "udp") ] "proxy" ] ]

/-- The members in front of the outbounds. -/
def settings : List ((Text ⊕ Variable) × Document) :=
  [ member "log" <| .object [ member "loglevel" (string "debug") ],
    member "dns" <| .object
      [ member "servers" <| .array
        [ string "https+local://8.8.8.8/dns-query" ] ],
    member "inbounds" inbounds,
    member "routing" routing ]

/-- The members up to the outbounds, and the beginning of these. -/
def headSlots : List (Token (Text ⊕ Variable)) :=
  .beginObject :: (openMembers [] settings ++
    [.string (.inl "outbounds".toList), .nameSeparator, .beginArray])

def outboundSlots : Protocol → List (Token (Text ⊕ Variable))
  | .vless => vlessProxy.tokens ++ .valueSeparator :: fragmentOut.tokens
  | .shadowsocks => shadowsocksProxy.tokens
  | .socks => socksProxy.tokens

def tailSlots : List (Token (Text ⊕ Variable)) :=
  .valueSeparator :: (dnsOut.tokens ++ [.endArray, .endObject])

def document (protocol : Protocol) : Document :=
  .object (settings ++ [member "outbounds" (outbounds protocol)])

theorem tokens_outbounds (protocol : Protocol) :
    (outbounds protocol).tokens =
      .beginArray :: (outboundSlots protocol ++
        .valueSeparator :: (dnsOut.tokens ++ [.endArray])) := by
  cases protocol <;> rfl

theorem tokens_document (protocol : Protocol) :
    (document protocol).tokens =
      headSlots ++ (outboundSlots protocol ++ tailSlots) := by
  have members := membersTokens_append [] (.inl "outbounds".toList)
    (outbounds protocol) settings []
  rw [tokens_outbounds] at members
  change .beginObject :: membersTokens [] _ = _
  rw [member, members]
  simp [headSlots, tailSlots, membersTokens]

/-- The variables that are put between quotation marks, in their order. -/
def strings : Protocol → List Variable
  | .vless => [.resolvedIp, .password, .remoteHost, .remoteHost]
  | .shadowsocks => [.resolvedIp, .method, .password]
  | .socks => [.resolvedIp]

/-- How the outbound tagged `proxy` names its protocol. -/
def name : Protocol → Text
  | .vless => "vless".toList
  | .shadowsocks => "shadowsocks".toList
  | .socks => "socks".toList

theorem name_injective {kind other : Protocol} (same : name kind = name other) :
    kind = other := by
  cases kind <;> cases other <;> first | rfl | exact absurd same (by decide)

theorem stringHoles_outboundSlots (protocol : Protocol) :
    stringHoles (outboundSlots protocol) = strings protocol := by
  cases protocol <;> rfl

/-! ## The texts are read as what is meant -/

/-- The same parts with their characters spelled out: a literal says what it
consists of at once, and what `toList` makes of it only after decoding it. -/
inductive Spelled :
    List (TemplatePart Variable) → List (TemplatePart Variable) → Prop where
  | nil : Spelled [] []
  | hole {hole : Variable} {parts spelled : List (TemplatePart Variable)}
      (rest : Spelled parts spelled) :
      Spelled (.hole hole :: parts) (.hole hole :: spelled)
  | text {chars : Text} {parts spelled : List (TemplatePart Variable)}
      (rest : Spelled parts spelled) :
      Spelled (text (String.ofList chars) :: parts) (.fixed chars :: spelled)
  | line {indent : Nat} {chars : Text}
      {parts spelled : List (TemplatePart Variable)}
      (rest : Spelled parts spelled) :
      Spelled (line indent (String.ofList chars) :: parts)
        (.fixed ('\n' :: (List.replicate indent ' ' ++ chars)) :: spelled)

theorem Spelled.eq {parts spelled : List (TemplatePart Variable)}
    (same : Spelled parts spelled) : parts = spelled := by
  induction same with
  | nil => rfl
  | hole _ inductionHypothesis => rw [inductionHypothesis]
  | text _ inductionHypothesis =>
      rw [inductionHypothesis, XrayTarget.text, String.toList_ofList]
  | line _ inductionHypothesis =>
      rw [inductionHypothesis, XrayTarget.line, String.toList_ofList]

theorem Spelled.readParts {parts spelled : List (TemplatePart Variable)}
    {mode : Mode} {result : Option (Mode × List (Token (Text ⊕ Variable)))}
    (same : Spelled parts spelled)
    (reads : JsonText.readParts mode spelled = result) :
    JsonText.readParts mode parts = result := by
  rw [same.eq, reads]

theorem read_configHead :
    readParts .between configHead = some (.between, headSlots) := by
  unfold configHead
  apply Spelled.readParts
  · repeat constructor
  · decide +kernel

theorem read_outboundJson (protocol : Protocol) :
    readParts .between (outboundJson protocol) =
      some (.between, outboundSlots protocol) := by
  cases protocol with
  | vless =>
      unfold outboundJson vlessOutbound
      apply Spelled.readParts
      · repeat constructor
      · decide +kernel
  | shadowsocks =>
      unfold outboundJson shadowsocksOutbound
      apply Spelled.readParts
      · repeat constructor
      · decide +kernel
  | socks =>
      unfold outboundJson socksOutbound
      apply Spelled.readParts
      · repeat constructor
      · decide +kernel

/-- The first lines of an outbound have no variables. -/
theorem read_opening (protocol : Protocol) :
    readParts .between ((outboundJson protocol).take 3) =
      some (.between, (outboundSlots protocol).take 9) := by
  cases protocol with
  | vless =>
      change readParts .between
        [ text "\x7b", line 20 "\"tag\": \"proxy\",",
          line 20 "\"protocol\": \"vless\"," ] = _
      apply Spelled.readParts
      · repeat constructor
      · decide +kernel
  | shadowsocks =>
      change readParts .between
        [ text "\x7b", line 20 "\"tag\": \"proxy\",",
          line 20 "\"protocol\": \"shadowsocks\"," ] = _
      apply Spelled.readParts
      · repeat constructor
      · decide +kernel
  | socks =>
      change readParts .between
        [ text "\x7b", line 20 "\"tag\": \"proxy\",",
          line 20 "\"protocol\": \"socks\"," ] = _
      apply Spelled.readParts
      · repeat constructor
      · decide +kernel

theorem read_configTail :
    readParts .between configTail = some (.between, tailSlots) := by
  unfold configTail
  apply Spelled.readParts
  · repeat constructor
  · decide +kernel

section Values

variable (resolve : Text → Option Text) (self : XrayTarget)

/-- The document with the values of its variables. -/
def instantiate (document : Document) : Json Text :=
  document.map (leafText (self.values resolve))

/-- The text is valid.  The proxy, which is of this kind, has its strings where
they belong, and the rest is as it is written for every proxy of the kind. -/
def CarriesProxy (kind : Protocol) : Prop :=
  ∃ document, Denotes (self.configJson resolve) document ∧
    document.get "inbounds".toList =
      some (self.instantiate resolve inbounds) ∧
    document.get "routing".toList = some (self.instantiate resolve routing) ∧
    document.get "outbounds".toList =
      some (self.instantiate resolve (outbounds kind))

/-- What is not the proxy itself depends on no string of it: the inbounds and the
routing on the local port only, and the other outbounds on its kind only. -/
theorem rest_independent (other : XrayTarget) (otherResolve : Text → Option Text)
    (samePort : self.localPort = other.localPort) :
    self.instantiate resolve inbounds =
        other.instantiate otherResolve inbounds ∧
      self.instantiate resolve routing =
        other.instantiate otherResolve routing ∧
      ∀ protocol, (otherOutbounds protocol).map (self.instantiate resolve) =
        (otherOutbounds protocol).map (other.instantiate otherResolve) := by
  refine ⟨?_, rfl, fun protocol => by cases protocol <;> rfl⟩
  simp [instantiate, inbounds, member, Json.map, mapItems, mapMembers,
    leafText, values, samePort, string]

variable {resolve self}

/-- The values of the variables outside quotation marks are numbers. -/
theorem numbers_of_ports {tokens : List (Token (Text ⊕ Variable))}
    (ports : ∀ hole ∈ numberHoles tokens,
      hole = .remotePort ∨ hole = .localPort) :
    Numbers (self.values resolve) tokens := by
  intro hole member
  rcases ports hole member with rfl | rfl
  · exact ⟨self.remotePort, rfl⟩
  · exact ⟨self.localPort, rfl⟩

theorem numbers_headSlots : Numbers (self.values resolve) headSlots := by
  have port : numberHoles headSlots = [.localPort] := rfl
  apply numbers_of_ports
  rw [port]
  decide

theorem numbers_outboundSlots (protocol : Protocol) :
    Numbers (self.values resolve) (outboundSlots protocol) := by
  have port : numberHoles (outboundSlots protocol) = [.remotePort] := by
    cases protocol <;> rfl
  apply numbers_of_ports
  rw [port]
  decide

theorem numbers_tailSlots : Numbers (self.values resolve) tailSlots := by
  have none : numberHoles tailSlots = [] := rfl
  intro hole member
  rw [none] at member
  cases member

theorem plainHoles_headSlots : PlainHoles (self.values resolve) headSlots := by
  have none : stringHoles headSlots = [] := rfl
  intro hole member
  rw [none] at member
  cases member

theorem plainHoles_tailSlots : PlainHoles (self.values resolve) tailSlots := by
  have none : stringHoles tailSlots = [] := rfl
  intro hole member
  rw [none] at member
  cases member

/-- Reading the configuration is reading the outbounds and what follows. -/
theorem lexFrom_configJson :
    lexFrom .between (self.configJson resolve) =
      (lexFrom .between (fill (self.values resolve) (outboundJson self.protocol)
        ++ (fill (self.values resolve) configTail ++ []))).map
          (fillTokens (self.values resolve) headSlots ++ ·) := by
  unfold configJson
  rw [fill_append, fill_append, List.append_assoc, List.append_nil,
    lexFrom_fill read_configHead numbers_headSlots plainHoles_headSlots]

/-- With plain values the text is that of the document that is meant. -/
theorem denotes_of_plain
    (plain : PlainHoles (self.values resolve) (outboundSlots self.protocol)) :
    Denotes (self.configJson resolve)
      (self.instantiate resolve (document self.protocol)) := by
  unfold Denotes instantiate
  rw [tokens_map, tokens_document, lexFrom_configJson,
    lexFrom_fill (read_outboundJson _) (numbers_outboundSlots _) plain,
    lexFrom_fill read_configTail numbers_tailSlots plainHoles_tailSlots]
  simp [lexFrom, finish, fillTokens]

/-- No other document has that text. -/
theorem denotes_iff_of_plain
    (plain : PlainHoles (self.values resolve) (outboundSlots self.protocol))
    (other : Json Text) :
    Denotes (self.configJson resolve) other ↔
      other = self.instantiate resolve (document self.protocol) := by
  constructor
  · intro isText
    exact isText.unique (denotes_of_plain plain)
  · rintro rfl
    exact denotes_of_plain plain

theorem get_instantiate (protocol : Protocol) :
    (self.instantiate resolve (document protocol)).get "inbounds".toList =
        some (self.instantiate resolve inbounds) ∧
      (self.instantiate resolve (document protocol)).get "routing".toList =
        some (self.instantiate resolve routing) ∧
      (self.instantiate resolve (document protocol)).get "outbounds".toList =
        some (self.instantiate resolve (outbounds protocol)) :=
  ⟨rfl, rfl, rfl⟩

theorem fillTokens_opening (protocol : Protocol) :
    (fillTokens (self.values resolve) ((outboundSlots protocol).take 9))[7]? =
      some (.string (name protocol)) := by
  cases protocol <;> rfl

theorem length_opening (protocol : Protocol) :
    (fillTokens (self.values resolve) ((outboundSlots protocol).take 9)).length = 9 := by
  cases protocol <;> rfl

/-- However the outbounds are read, they begin with the protocol that was written. -/
theorem opening_of_lexFrom {protocol : Protocol} {rest : Text} {tokens : List (Token Text)}
    (reads : lexFrom .between
      (fill (self.values resolve) (outboundJson protocol) ++ rest) = some tokens) :
    ∃ more, tokens =
      fillTokens (self.values resolve) ((outboundSlots protocol).take 9) ++ more := by
  have numbers : Numbers (self.values resolve) ((outboundSlots protocol).take 9) := by
    have none : numberHoles ((outboundSlots protocol).take 9) = [] := by
      cases protocol <;> rfl
    intro hole member
    rw [none] at member
    cases member
  have plain : PlainHoles (self.values resolve) ((outboundSlots protocol).take 9) := by
    have none : stringHoles ((outboundSlots protocol).take 9) = [] := by
      cases protocol <;> rfl
    intro hole member
    rw [none] at member
    cases member
  rw [← List.take_append_drop 3 (outboundJson protocol), fill_append,
    List.append_assoc, lexFrom_fill (read_opening protocol) numbers plain] at reads
  obtain ⟨more, _, rfl⟩ := Option.map_eq_some_iff.mp reads
  exact ⟨more, rfl⟩

/-- The tokens that are read for the outbounds are those of the kind that is meant
only if it is the kind that was written. -/
theorem kind_of_tokens {kind protocol : Protocol} {rest : Text}
    {more : List (Token Text)}
    (reads : lexFrom .between
      (fill (self.values resolve) (outboundJson protocol) ++ rest) =
        some (fillTokens (self.values resolve) (outboundSlots kind) ++ more)) :
    protocol = kind := by
  obtain ⟨others, begins⟩ := opening_of_lexFrom reads
  have split : fillTokens (self.values resolve) (outboundSlots kind) =
      fillTokens (self.values resolve) ((outboundSlots kind).take 9) ++
        fillTokens (self.values resolve) ((outboundSlots kind).drop 9) := by
    unfold fillTokens
    rw [← List.map_append, List.take_append_drop]
  rw [split, List.append_assoc] at begins
  have same := (List.append_inj begins (by rw [length_opening, length_opening])).1
  have named := congrArg (·[7]?) same
  rw [fillTokens_opening, fillTokens_opening] at named
  exact (name_injective (Token.string.inj (Option.some.inj named))).symm

/-- A document that the text has begins with the members that are meant, and
where its outbounds are those that are meant for a kind, that kind was written and
the values are plain. -/
theorem plain_of_outbounds {document : Json Text} {kind : Protocol}
    (isText : Denotes (self.configJson resolve) document)
    (only : document.get "outbounds".toList =
      some (self.instantiate resolve (outbounds kind))) :
    self.protocol = kind ∧ PlainHoles (self.values resolve) (outboundSlots kind) := by
  unfold Denotes at isText
  rw [lexFrom_configJson] at isText
  obtain ⟨rest, reads, begins⟩ := Option.map_eq_some_iff.mp isText
  have known : fillTokens (self.values resolve) headSlots =
      .beginObject ::
        (openMembers [] (mapMembers (leafText (self.values resolve)) settings)
          ++ [.string "outbounds".toList, .nameSeparator, .beginArray]) := by
    have members := openMembers_map (leafText (self.values resolve)) [] settings
    rw [List.map_nil] at members
    rw [members]
    simp [fillTokens, headSlots, Token.map, leafText]
  rw [known, List.cons_append, List.append_assoc] at begins
  obtain ⟨value, more, rfl, items⟩ := object_of_begins begins.symm
  have meant := get_eq_some_of_mem
    (List.mem_append_right _ List.mem_cons_self) only
  rw [← meant, instantiate, tokens_map, tokens_outbounds] at items
  simp only [List.map_cons, List.map_append, Token.map, List.cons_append,
    List.append_assoc] at items
  have behind : _ = rest := (List.cons.inj items).2
  rw [← behind] at reads
  have written := kind_of_tokens reads
  rw [written] at reads
  exact ⟨written,
    plain_of_lexFrom_fill (read_outboundJson _) (numbers_outboundSlots _) reads⟩

end Values

/-- The configuration is the one that is meant for a proxy of a kind if and only if
the method and the password tell that kind and none of the strings between quotation
marks has a quotation mark, a backslash or a control character. -/
theorem carries_proxy_iff (resolve : Text → Option Text) (self : XrayTarget)
    (kind : Protocol) :
    self.CarriesProxy resolve kind ↔ self.Marked kind ∧
      ∀ string ∈ strings kind, Plain (self.values resolve string) := by
  rw [← stringHoles_outboundSlots, marked_iff]
  constructor
  · rintro ⟨document, isText, _, _, only⟩
    exact plain_of_outbounds isText only
  · rintro ⟨rfl, plain⟩
    exact ⟨_, denotes_of_plain plain, get_instantiate self.protocol⟩

/-! ## A password with a quotation mark -/

/-- The tunnel is started with a proxy that was found. -/
def ofInfo (proxy : ProxyInfo) (localPort : Int) : XrayTarget where
  remoteHost := proxy.host
  remotePort := proxy.port
  method := proxy.method
  password := proxy.password
  localPort := localPort

/-- A link whose part in Base64 is `aes-256-gcm:a"b`. -/
def quotedLink : Text :=
  "ss://YWVzLTI1Ni1nY206YSJi@1.2.3.4:8388".toList

/-- Libraries that know the bytes of ASCII, and the Base64 of the link. -/
def linkPlatform : Platform where
  utf8 bytes := bytes.map fun byte => Char.ofNat byte.toNat
  bytes text := text.map fun char => char.toNat.toUInt8
  base64 bytes :=
    if bytes = "YWVzLTI1Ni1nY206YSJi".toList.map fun char => char.toNat.toUInt8
    then some ("aes-256-gcm:a\"b".toList.map fun char => char.toNat.toUInt8)
    else none
  regexDigit := Char.isDigit
  regexSpace := Char.isWhitespace
  jsonServers _ := []
  tableRows _ := []

/-- The password of the link ends its string in the configuration. -/
theorem quotation_mark_breaks_config :
    ¬∀ (platform : Platform) (line : Text) (proxy : ProxyInfo)
      (resolve : Text → Option Text) (localPort : Int),
      shadowsocksLine platform line = some proxy →
        (ofInfo proxy localPort).CarriesProxy resolve .shadowsocks := by
  intro always
  have carried := always linkPlatform quotedLink
    { host := "1.2.3.4".toList, port := 8388, type := .shadowsocks,
      method := some "aes-256-gcm".toList, password := some "a\"b".toList }
    (fun _ => none) 10808 (by decide +kernel)
  obtain ⟨document, isText, _, _, only⟩ := carried
  have plain := (plain_of_outbounds isText only).2 .password (by decide +kernel)
  have inside : '"' ∈ "a\"b".toList := by simp
  exact (plain '"' inside).1 rfl

end XrayTarget

end ProxyVPN
