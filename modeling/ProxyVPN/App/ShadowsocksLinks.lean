/-
Module: ProxyVPN.App.ShadowsocksLinks
Purpose: The two forms of a Shadowsocks link, with all of it or only the method
  and the password in Base64, and exactly when `fetchFromUrl` makes the same
  proxy of both.
Trusted boundary: `Platform.Standard` is what is asked of the platform: its
  Base64 inverts the standard encoding, and its UTF-8 reads what it wrote.
Main exports: Platform.Standard, ShadowsocksLink, LinkParts,
  ShadowsocksLink.links_agree_iff, ShadowsocksLink.at_sign_splits_password
-/
import ProxyVPN.App.ProxySources
import ProxyVPN.Lib.Base64

namespace ProxyVPN

open Kotlin

/-- `Base64.decode` inverts the standard encoding, and a text is read back from
its bytes in UTF-8. -/
structure Platform.Standard (platform : Platform) : Prop where
  utf8 : ∀ text, platform.utf8 (platform.bytes text) = text
  base64 : ∀ data,
    platform.base64 (platform.bytes (Base64.encode data)) = some data

/-- A text in Base64. -/
def Platform.toBase64 (platform : Platform) (text : Text) : Text :=
  Base64.encode (platform.bytes text)

theorem Platform.Standard.decode {platform : Platform}
    (standard : platform.Standard) (text : Text) :
    platform.decode (platform.toBase64 text) = some text := by
  unfold Platform.decode Platform.toBase64
  rw [standard.base64, Option.map_some, standard.utf8]

/-- What a link for Shadowsocks names. -/
structure ShadowsocksLink where
  method : Text
  password : Text
  host : Text
  port : Int
  tag : Text

namespace ShadowsocksLink

/-- The method and the host have none of the characters that separate the
parts, and the port is one. -/
structure Plain (link : ShadowsocksLink) : Prop where
  method : ':' ∉ link.method ∧ '@' ∉ link.method ∧ '#' ∉ link.method
  host : ':' ∉ link.host ∧ '@' ∉ link.host ∧ '#' ∉ link.host
  port : 1 ≤ link.port ∧ link.port ≤ 65535

def auth (link : ShadowsocksLink) : Text :=
  link.method ++ ':' :: link.password

def address (link : ShadowsocksLink) : Text :=
  link.host ++ ':' :: (toString link.port).toList

/-- `ss://BASE64(method:password)@host:port#tag`. -/
def partlyEncoded (platform : Platform) (link : ShadowsocksLink) : Text :=
  "ss://".toList ++
    (platform.toBase64 link.auth ++ '@' :: link.address) ++ '#' :: link.tag

/-- `ss://BASE64(method:password@host:port)#tag`. -/
def whollyEncoded (platform : Platform) (link : ShadowsocksLink) : Text :=
  "ss://".toList ++
    platform.toBase64 (link.auth ++ '@' :: link.address) ++ '#' :: link.tag

/-- The proxy that is meant. -/
def proxy (link : ShadowsocksLink) : ProxyInfo where
  host := link.host
  port := link.port
  type := .shadowsocks
  secret := []
  method := some link.method
  password := some link.password

/-- The branch for `base64_ss` makes the proxy that is meant of both lines. -/
def LinksAgree (platform : Platform) (link : ShadowsocksLink) : Prop :=
  shadowsocksLine platform (link.partlyEncoded platform) = some link.proxy ∧
    shadowsocksLine platform (link.whollyEncoded platform) = some link.proxy

/-! ## The parts of a line -/

/-- What is between the scheme and the tag. -/
theorem base64Part_eq {body : Text} (tag : Text) (untagged : '#' ∉ body) :
    let trimmed := trim ("ss://".toList ++ body ++ '#' :: tag)
    "ss://".toList.isPrefixOf trimmed = true ∧
      substringBefore '#' (trimmed.drop 5) = body := by
  obtain ⟨rest, trimmed⟩ :=
    trim_append ("s://".toList ++ body) tag
      (show isWhitespace 's' = false by decide)
      (show isWhitespace '#' = false by decide)
  have line : "ss://".toList ++ body ++ '#' :: tag =
      's' :: ("s://".toList ++ body ++ '#' :: tag) := rfl
  have begins : 's' :: ("s://".toList ++ body ++ '#' :: rest) =
      "ss://".toList ++ (body ++ '#' :: rest) := by
    rw [List.append_assoc]
    rfl
  simp only
  rw [line, trimmed, begins]
  constructor
  · rw [List.isPrefixOf_iff_prefix]
    exact List.prefix_append _ _
  · have dropped : ("ss://".toList ++ (body ++ '#' :: rest)).drop 5 =
        body ++ '#' :: rest := rfl
    rw [dropped]
    exact substringBefore_append rest untagged

end ShadowsocksLink

/-! ## What a link is split into -/

/-- The method with the password, and the address. They stand before and after
the first at sign: of the link, with what is before it in Base64, or of the text
that the link is the Base64 of. -/
inductive LinkParts (platform : Platform) (base64Part : Text) :
    Text → Text → Prop
  | partly {encoded auth address : Text}
      (split : base64Part = encoded ++ '@' :: address)
      (first : '@' ∉ encoded) (decoded : platform.decode encoded = some auth) :
      LinkParts platform base64Part auth address
  | wholly {auth address : Text} (absent : '@' ∉ base64Part)
      (decoded : platform.decode base64Part = some (auth ++ '@' :: address))
      (first : '@' ∉ auth) : LinkParts platform base64Part auth address

/-- A link is read as the endpoint that its parts give. -/
theorem LinkParts.shadowsocksLine_eq {platform : Platform}
    {line auth address : Text}
    (scheme : "ss://".toList.isPrefixOf (trim line) = true)
    (parts : LinkParts platform (substringBefore '#' ((trim line).drop 5))
      auth address) (colon : ':' ∈ auth) :
    shadowsocksLine platform line =
      shadowsocksEndpoint (splitLimit2 ':' auth) (splitLimit2 ':' address) := by
  unfold shadowsocksLine
  simp only
  rw [if_pos scheme]
  cases parts with
  | partly split first decoded =>
      rw [split, splitLimit2_append _ first]
      simp only
      rw [decoded, Option.bind_some]
  | wholly absent decoded first =>
      have separated : '@' ∈ auth ++ '@' :: address ∧
          ':' ∈ auth ++ '@' :: address :=
        ⟨List.mem_append_right _ List.mem_cons_self,
          List.mem_append_left _ colon⟩
      rw [splitLimit2_of_notMem absent]
      simp only
      rw [decoded, Option.bind_some, if_pos separated,
        splitLimit2_append _ first]

/-- A line that is read as a proxy is a link with parts. -/
theorem linkParts_of_shadowsocksLine {platform : Platform} {line : Text}
    {proxy : ProxyInfo} (made : shadowsocksLine platform line = some proxy) :
    "ss://".toList.isPrefixOf (trim line) = true ∧
      ∃ auth address,
        LinkParts platform (substringBefore '#' ((trim line).drop 5))
          auth address ∧
        shadowsocksEndpoint (splitLimit2 ':' auth) (splitLimit2 ':' address) =
          some proxy := by
  unfold shadowsocksLine at made
  obtain ⟨scheme, link⟩ := Option.ite_none_right_eq_some.mp made
  refine ⟨scheme, ?_⟩
  dsimp only at link
  split at link
  case h_1 encoded address parts =>
    obtain ⟨auth, decoded, endpoint⟩ := Option.bind_eq_some_iff.mp link
    obtain ⟨split, first⟩ := splitLimit2_eq_pair parts
    exact ⟨auth, address, .partly split first decoded, endpoint⟩
  case h_2 noPair =>
    have absent :
        '@' ∉ substringBefore '#' ((trim line).drop 5) := by
      intro present
      obtain ⟨before, after, split, first⟩ :=
        List.eq_append_cons_of_mem present
      apply noPair before after
      rw [split]
      exact splitLimit2_append _ first
    obtain ⟨text, decoded, body⟩ := Option.bind_eq_some_iff.mp link
    obtain ⟨_, pair⟩ := Option.ite_none_right_eq_some.mp body
    split at pair
    case h_1 auth address parts =>
      obtain ⟨rfl, first⟩ := splitLimit2_eq_pair parts
      exact ⟨auth, address, .wholly absent decoded first, pair⟩
    case h_2 => cases pair

namespace ShadowsocksLink

variable {platform : Platform} {link : ShadowsocksLink}

theorem separators_notMem_toBase64 (platform : Platform) (text : Text) :
    '#' ∉ platform.toBase64 text ∧ '@' ∉ platform.toBase64 text :=
  ⟨Base64.notMem_encode _ (by decide) (by decide),
    Base64.notMem_encode _ (by decide) (by decide)⟩

/-- A character that is no digit is not in the text of the port. -/
theorem notMem_port {char : Char} (plain : link.Plain)
    (notDigit : char.isDigit = false) :
    char ∉ (toString link.port).toList := by
  intro member
  have notNegative : 0 ≤ link.port := Int.le_trans (by decide) plain.port.1
  have isDigit := (numeral_toString notNegative).isDigit char member
  rw [notDigit] at isDigit
  cases isDigit

theorem splitLimit2_auth (plain : link.Plain) :
    splitLimit2 ':' link.auth = [link.method, link.password] :=
  splitLimit2_append _ plain.method.1

theorem splitLimit2_address (plain : link.Plain) :
    splitLimit2 ':' link.address =
      [link.host, (toString link.port).toList] :=
  splitLimit2_append _ plain.host.1

theorem hash_notMem_address (plain : link.Plain) : '#' ∉ link.address := by
  unfold address
  rw [List.mem_append, List.mem_cons]
  rintro (inHost | same | inPort)
  · exact plain.host.2.2 inHost
  · cases same
  · exact notMem_port plain (by decide) inPort

/-- The parts of a link are the proxy that is meant. -/
theorem shadowsocksEndpoint_eq (plain : link.Plain) :
    shadowsocksEndpoint [link.method, link.password]
      [link.host, (toString link.port).toList] = some link.proxy := by
  have notNegative : 0 ≤ link.port := Int.le_trans (by decide) plain.port.1
  have small : link.port < 2 ^ 31 :=
    Int.lt_of_le_of_lt plain.port.2 (by decide)
  have port : toIntOrNull (substringBefore '/' (toString link.port).toList) =
      some link.port := by
    rw [substringBefore_of_notMem (notMem_port plain (by decide))]
    exact (numeral_toString notNegative).toIntOrNull small
  unfold shadowsocksEndpoint
  simp only
  rw [port]
  rfl

/-! ## The two forms -/

/-- Where only the method and the password are in Base64, the proxy is always
the one that is meant. -/
theorem partlyEncoded_eq (standard : platform.Standard) (plain : link.Plain) :
    shadowsocksLine platform (link.partlyEncoded platform) =
      some link.proxy := by
  obtain ⟨noHash, noAt⟩ := separators_notMem_toBase64 platform link.auth
  have untagged :
      '#' ∉ platform.toBase64 link.auth ++ '@' :: link.address := by
    rw [List.mem_append, List.mem_cons]
    rintro (inAuth | same | inAddress)
    · exact noHash inAuth
    · cases same
    · exact hash_notMem_address plain inAddress
  obtain ⟨scheme, body⟩ := base64Part_eq link.tag untagged
  have parts : LinkParts platform _ link.auth link.address :=
    .partly body noAt (standard.decode link.auth)
  unfold partlyEncoded
  rw [parts.shadowsocksLine_eq scheme
    (List.mem_append_right _ List.mem_cons_self), splitLimit2_auth plain,
    splitLimit2_address plain]
  exact shadowsocksEndpoint_eq plain

/-- Where all of it is in Base64, what was encoded is split at its first at
sign. -/
theorem whollyEncoded_eq (standard : platform.Standard) {front back : Text}
    (first : '@' ∉ front)
    (encoded : link.auth ++ '@' :: link.address = front ++ '@' :: back)
    (colon : ':' ∈ front) :
    shadowsocksLine platform (link.whollyEncoded platform) =
      shadowsocksEndpoint (splitLimit2 ':' front) (splitLimit2 ':' back) := by
  obtain ⟨noHash, noAt⟩ := separators_notMem_toBase64 platform
    (link.auth ++ '@' :: link.address)
  obtain ⟨scheme, body⟩ := base64Part_eq link.tag noHash
  have decoded := standard.decode (link.auth ++ '@' :: link.address)
  rw [← body] at noAt decoded
  have parts : LinkParts platform _ front back :=
    .wholly noAt (decoded.trans (congrArg some encoded)) first
  exact parts.shadowsocksLine_eq scheme colon

theorem at_notMem_auth (plain : link.Plain) (absent : '@' ∉ link.password) :
    '@' ∉ link.auth := by
  unfold auth
  rw [List.mem_append, List.mem_cons]
  rintro (inMethod | same | inPassword)
  · exact plain.method.2.1 inMethod
  · cases same
  · exact absent inPassword

/-- What follows the first at sign of a password is taken for the address. -/
theorem LinksAgree.notMem (agree : link.LinksAgree platform)
    (standard : platform.Standard) (plain : link.Plain) :
    '@' ∉ link.password := by
  intro present
  obtain ⟨front, back, password, first⟩ := List.eq_append_cons_of_mem present
  have cut : '@' ∉ link.method ++ ':' :: front := by
    rw [List.mem_append, List.mem_cons]
    rintro (inMethod | same | inFront)
    · exact plain.method.2.1 inMethod
    · cases same
    · exact first inFront
  have encoded : link.auth ++ '@' :: link.address =
      (link.method ++ ':' :: front) ++
        '@' :: (back ++ '@' :: link.address) := by
    unfold auth
    rw [password]
    simp only [List.append_assoc, List.cons_append]
  have made := agree.2
  rw [whollyEncoded_eq standard cut encoded
    (List.mem_append_right _ List.mem_cons_self),
    splitLimit2_append _ plain.method.1] at made
  -- the proxy has only what was before the at sign for its password
  unfold shadowsocksEndpoint at made
  split at made
  case h_1 parts _ =>
    obtain ⟨port, _, same⟩ := Option.map_eq_some_iff.mp made
    have shorter : front = link.password := by
      have passwords := congrArg ProxyInfo.password same
      cases parts
      exact Option.some.inj passwords
    have length := congrArg List.length password
    rw [List.length_append, List.length_cons, ← shorter] at length
    omega
  case h_2 => cases made

theorem linksAgree_of_notMem (standard : platform.Standard)
    (plain : link.Plain) (absent : '@' ∉ link.password) :
    link.LinksAgree platform := by
  refine ⟨partlyEncoded_eq standard plain, ?_⟩
  rw [whollyEncoded_eq standard (at_notMem_auth plain absent) rfl
    (List.mem_append_right _ List.mem_cons_self),
    splitLimit2_auth plain, splitLimit2_address plain]
  exact shadowsocksEndpoint_eq plain

/-- Both forms are read as the proxy that is meant exactly when the password has
no at sign. -/
theorem links_agree_iff (standard : platform.Standard) (plain : link.Plain) :
    link.LinksAgree platform ↔ '@' ∉ link.password :=
  ⟨fun agree => agree.notMem standard plain,
    linksAgree_of_notMem standard plain⟩

/-! ## A platform -/

/-- UTF-8 and Base64 as they are. The other libraries find nothing. -/
def utf8Platform : Platform where
  utf8 bytes := (bytes.toByteArray.utf8Decode?.map Array.toList).getD []
  bytes text := text.flatMap String.utf8EncodeChar
  base64 bytes :=
    Base64.decode ((bytes.toByteArray.utf8Decode?.map Array.toList).getD [])
  regexDigit := Char.isDigit
  regexSpace := Char.isWhitespace
  jsonServers _ := []
  tableRows _ := []

theorem utf8Platform_standard : utf8Platform.Standard := by
  have utf8 : ∀ text, utf8Platform.utf8 (utf8Platform.bytes text) = text := by
    intro text
    change (text.utf8Encode.utf8Decode?.map Array.toList).getD [] = text
    rw [List.utf8Decode?_utf8Encode]
    rfl
  refine ⟨utf8, ?_⟩
  intro data
  change Base64.decode (utf8Platform.utf8 (utf8Platform.bytes _)) = _
  rw [utf8]
  exact Base64.decode_encode data

/-- A link with this password. -/
def withPassword (password : Text) : ShadowsocksLink where
  method := "aes-256-gcm".toList
  password := password
  host := "192.0.2.1".toList
  port := 8388
  tag := "one".toList

theorem withPassword_plain (password : Text) :
    (withPassword password).Plain where
  method := show ':' ∉ "aes-256-gcm".toList ∧ '@' ∉ "aes-256-gcm".toList ∧
    '#' ∉ "aes-256-gcm".toList by decide
  host := show ':' ∉ "192.0.2.1".toList ∧ '@' ∉ "192.0.2.1".toList ∧
    '#' ∉ "192.0.2.1".toList by decide
  port := show (1 : Int) ≤ 8388 ∧ (8388 : Int) ≤ 65535 by decide

/-- A password with a colon is read from both forms. -/
theorem links_agree_iff_colon :
    '@' ∉ "p:ass".toList ∧
      (withPassword "p:ass".toList).LinksAgree utf8Platform :=
  ⟨by decide,
    (links_agree_iff utf8Platform_standard (withPassword_plain _)).mpr
      (by decide)⟩

/-- Of the password `p@ss` only `p` is left, and `ss@` goes to the host. -/
theorem at_sign_splits_password :
    ∃ (platform : Platform) (link : ShadowsocksLink), platform.Standard ∧
      link.Plain ∧ link.password = "p@ss".toList ∧
      shadowsocksLine platform (link.whollyEncoded platform) =
        some { link.proxy with
          host := "ss@192.0.2.1".toList, password := some "p".toList } ∧
      ¬link.LinksAgree platform := by
  refine ⟨utf8Platform, withPassword "p@ss".toList, utf8Platform_standard,
    withPassword_plain _, rfl, ?_, ?_⟩
  · have encoded : (withPassword "p@ss".toList).auth ++
        '@' :: (withPassword "p@ss".toList).address =
        "aes-256-gcm:p".toList ++ '@' :: "ss@192.0.2.1:8388".toList := by
      decide
    rw [whollyEncoded_eq utf8Platform_standard (by decide) encoded (by decide)]
    decide
  · intro agree
    exact absurd (agree.notMem utf8Platform_standard (withPassword_plain _))
      (by decide)

end ShadowsocksLink

end ProxyVPN
