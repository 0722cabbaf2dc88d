/-
Module: ProxyVPN.App.ScrapedEndpoints
Purpose: The endpoints that `fetchFromUrl` takes from a body, and exactly when
  all of them can be connected to and are what their lines say.
Trusted boundary: that of ProxySources.
Main exports: ScrapedEndpoints.EndpointsUsable, ScrapedEndpoints.PlainBody,
  ScrapedEndpoints.endpoints_usable_iff,
  ScrapedEndpoints.unusable_endpoints_listed
-/
import ProxyVPN.App.ShadowsocksLinks

namespace ProxyVPN

open Kotlin

/-- There is a host, and the port is one. -/
def ProxyInfo.Usable (proxy : ProxyInfo) : Prop :=
  proxy.host ≠ [] ∧ validPort proxy.port

namespace ScrapedEndpoints

/-- The trimmed line is the host, a colon and the port. -/
def TextSpelled (line : Text) (proxy : ProxyInfo) : Prop :=
  ∃ digits, Numeral digits proxy.port ∧
    trim line = proxy.host ++ ':' :: digits

/-- The trimmed line is the host, the port and the secret, with colons between
them. -/
def MtprotoSpelled (line : Text) (proxy : ProxyInfo) : Prop :=
  ∃ digits, Numeral digits proxy.port ∧
    trim line = proxy.host ++ ':' :: (digits ++ ':' :: proxy.secret)

/-- Every proxy of a body can be connected to, and in the formats `text` and
`mtproto` the line it is taken from spells it out. -/
def EndpointsUsable (platform : Platform) (body : List UInt8)
    (format : Format) : Prop :=
  (∀ proxy ∈ fetchFromUrl platform body format, proxy.Usable) ∧
    match format with
    | .text => ∀ line ∈ readLines (platform.utf8 body),
        ∀ proxy ∈ textLine line, TextSpelled line proxy
    | .mtproto => ∀ line ∈ readLines (platform.utf8 body),
        ∀ proxy ∈ mtprotoLine line, MtprotoSpelled line proxy
    | _ => True

/-! ## Plain lines -/

def fields (line : Text) : List Text :=
  (trim line).splitOn ':'

/-- Only the digits from 0 to 9. -/
def AsciiDigits (field : Text) : Prop :=
  ∀ char ∈ field, char.isDigit = true

/-- A line of the format `text` whose last field is a port has one other field,
which is not empty, and the last has only digits. -/
def PlainText (line : Text) : Prop :=
  (trim line).head? ≠ some '#' → (trim line).head? ≠ some '!' →
    ∀ first others last, fields line = first :: (others ++ [last]) →
      ∀ port, toIntOrNull last = some port → validPort port →
        others = [] ∧ first ≠ [] ∧ AsciiDigits last

/-- A line of the format `mtproto` whose second field of three is a port, with a
secret after it, begins with a host, and the second has only digits. -/
def PlainMtproto (line : Text) : Prop :=
  ∀ server field secret, fields line = [server, field, secret] →
    secret ≠ [] → ∀ port, toIntOrNull field = some port → validPort port →
      server ≠ [] ∧ AsciiDigits field

/-- The address of a link for Shadowsocks has a host, and the number after its
first colon is in the range of a port. -/
def PlainLink (platform : Platform) (line : Text) : Prop :=
  "ss://".toList.isPrefixOf (trim line) = true → ∀ auth address,
    LinkParts platform (substringBefore '#' ((trim line).drop 5))
      auth address → ':' ∈ auth →
    ∀ host rest, address = host ++ ':' :: rest → ':' ∉ host →
      ∀ port, toIntOrNull (substringBefore '/' rest) = some port →
        host ≠ [] ∧ validPort port

/-- The lines of a body are plain, in the formats in which not all are checked
for it. -/
def PlainBody (platform : Platform) (body : List UInt8) : Format → Prop
  | .text => ∀ line ∈ readLines (platform.utf8 body), PlainText line
  | .base64Ss =>
      ∀ line ∈ lineSequence (((platform.base64 body).map platform.utf8).getD []),
        PlainLink platform line
  | .mtproto => ∀ line ∈ readLines (platform.utf8 body), PlainMtproto line
  | .mtprotoUrl | .mtprotoJson | .html => True

/-! ## Fields -/

/-- The fields are the whole of the trimmed line. -/
theorem fields_join (line : Text) :
    [':'].intercalate (fields line) = trim line :=
  List.intercalate_splitOn ':'

/-- A first field that is followed by a colon has none itself. -/
theorem colon_notMem_first {line first back : Text} {others : List Text}
    (split : fields line = first :: others)
    (begins : trim line = first ++ ':' :: back) :
    ':' ∉ first ∧ others = back.splitOn ':' := by
  unfold fields at split
  rw [begins, List.splitOn_append_cons_self] at split
  by_cases present : ':' ∈ first
  · obtain ⟨before, after, same, absent⟩ := List.eq_append_cons_of_mem present
    rw [same, List.splitOn_append_cons_self_of_not_mem absent,
      List.cons_append] at split
    have shorter := congrArg List.length (List.cons.inj split).1
    rw [List.length_append, List.length_cons] at shorter
    omega
  · rw [List.splitOn_eq_singleton present] at split
    exact ⟨present, (List.cons.inj split).2.symm⟩

theorem colon_mem_of_fields {line first last : Text} {others : List Text}
    (split : fields line = first :: (others ++ [last])) : ':' ∈ trim line := by
  by_contra absent
  unfold fields at split
  rw [List.splitOn_eq_singleton absent] at split
  have length := congrArg List.length split
  rw [List.length_singleton, List.length_cons, List.length_append,
    List.length_singleton] at length
  omega

/-! ## Text -/

/-- A line that is no comment, with a port in its last field, is a proxy. -/
theorem textLine_of_fields {line first last : Text} {others : List Text}
    {port : Int} (split : fields line = first :: (others ++ [last]))
    (noHash : (trim line).head? ≠ some '#')
    (noBang : (trim line).head? ≠ some '!')
    (number : toIntOrNull last = some port) (valid : validPort port) :
    textLine line = some { host := first, port := port } := by
  have colon := colon_mem_of_fields split
  have two : 2 ≤ (first :: (others ++ [last])).length := by
    rw [List.length_cons, List.length_append, List.length_singleton]
    omega
  have final : (first :: (others ++ [last])).getLast?.bind toIntOrNull =
      some port := by
    rw [← List.cons_append, List.getLast?_concat]
    exact number
  unfold fields at split
  unfold textLine
  simp only
  rw [if_pos ⟨colon, noHash, noBang⟩, split, final, List.head?_cons]
  simp only
  rw [if_pos ⟨two, valid⟩]

/-- A proxy is the first field of its line and the number in the last. -/
theorem fields_of_textLine {line : Text} {proxy : ProxyInfo}
    (made : textLine line = some proxy) :
    (trim line).head? ≠ some '#' ∧ (trim line).head? ≠ some '!' ∧
      ∃ others last, fields line = proxy.host :: (others ++ [last]) ∧
        toIntOrNull last = some proxy.port ∧ validPort proxy.port := by
  unfold textLine at made
  obtain ⟨⟨_, noHash, noBang⟩, parsed⟩ :=
    Option.ite_none_right_eq_some.mp made
  refine ⟨noHash, noBang, ?_⟩
  dsimp only at parsed
  split at parsed
  case h_1 host port first final =>
    obtain ⟨⟨two, valid⟩, same⟩ := Option.ite_none_right_eq_some.mp parsed
    cases same
    obtain ⟨last, ends, number⟩ := Option.bind_eq_some_iff.mp final
    obtain ⟨front, shape⟩ := List.getLast?_eq_some_iff.mp ends
    cases front with
    | nil =>
        rw [shape] at two
        exact absurd two (by simp)
    | cons _ others =>
        rw [shape] at first
        cases first
        exact ⟨others, last, shape, number, valid⟩
  case h_2 => cases parsed

/-- A line spells out the usable proxy it is read as exactly when it is plain. -/
theorem text_usable_iff (line : Text) :
    (∀ proxy ∈ textLine line, proxy.Usable ∧ TextSpelled line proxy) ↔
      PlainText line := by
  constructor
  · intro usable noHash noBang first others last split port number valid
    obtain ⟨⟨host, _⟩, digits, numeral, spelled⟩ := usable _
      (textLine_of_fields split noHash noBang number valid)
    obtain ⟨_, after⟩ := colon_notMem_first split spelled
    have noColon : ':' ∉ digits := by
      intro member
      exact absurd (numeral.isDigit _ member) (by decide)
    rw [List.splitOn_eq_singleton noColon] at after
    obtain ⟨rfl, rfl⟩ : others = [] ∧ last = digits := by
      cases others with
      | nil => exact ⟨rfl, (List.cons.inj after).1⟩
      | cons _ others => cases others <;> cases after
    exact ⟨rfl, host, numeral.isDigit⟩
  · intro plain proxy made
    obtain ⟨noHash, noBang, others, last, split, number, valid⟩ :=
      fields_of_textLine made
    obtain ⟨rfl, host, digits⟩ :=
      plain noHash noBang _ _ _ split _ number valid
    have joined := fields_join line
    rw [split, List.nil_append] at joined
    exact ⟨⟨host, valid⟩, last, numeral_of_toIntOrNull digits number,
      by simpa [List.intercalate] using joined.symm⟩

/-! ## MTPROTO -/

/-- Three fields with a secret and a port are a proxy. -/
theorem mtprotoLine_of_fields {line server field secret : Text} {port : Int}
    (split : fields line = [server, field, secret]) (given : secret ≠ [])
    (number : toIntOrNull field = some port) (valid : validPort port) :
    mtprotoLine line =
      some { host := server, port := port, type := .mtproto,
             secret := secret } := by
  unfold fields at split
  unfold mtprotoLine
  rw [split]
  simp only
  rw [number]
  unfold mtprotoEndpoint
  simp only
  rw [if_pos ⟨valid, given⟩]

/-- What is put together is what was given, with a valid port and a secret. -/
theorem mtprotoEndpoint_eq_some {server secret : Text} {port : Option Int}
    {proxy : ProxyInfo}
    (made : mtprotoEndpoint server port secret = some proxy) :
    proxy.host = server ∧ port = some proxy.port ∧ validPort proxy.port ∧
      proxy.secret = secret ∧ secret ≠ [] := by
  unfold mtprotoEndpoint at made
  split at made
  · obtain ⟨⟨valid, given⟩, same⟩ := Option.ite_none_right_eq_some.mp made
    cases same
    exact ⟨rfl, rfl, valid, rfl, given⟩
  · cases made

/-- The proxy of a line is usable and as it is spelled exactly where the line is
plain. -/
theorem mtproto_usable_iff (line : Text) :
    (∀ proxy ∈ mtprotoLine line,
        proxy.Usable ∧ MtprotoSpelled line proxy) ↔ PlainMtproto line := by
  constructor
  · intro usable server field secret split given port number valid
    obtain ⟨⟨host, _⟩, digits, numeral, spelled⟩ := usable _
      (mtprotoLine_of_fields split given number valid)
    obtain ⟨_, after⟩ := colon_notMem_first split spelled
    have noColon : ':' ∉ digits := by
      intro member
      exact absurd (numeral.isDigit _ member) (by decide)
    rw [List.splitOn_append_cons_self_of_not_mem noColon] at after
    obtain ⟨rfl, _⟩ := List.cons.inj after
    exact ⟨host, numeral.isDigit⟩
  · intro plain proxy made
    unfold mtprotoLine at made
    split at made
    case h_1 server field secret split =>
      obtain ⟨rfl, number, valid, rfl, given⟩ := mtprotoEndpoint_eq_some made
      obtain ⟨host, digits⟩ :=
        plain _ _ _ split given _ number valid
      have joined := fields_join line
      unfold fields at joined
      rw [split] at joined
      exact ⟨⟨host, valid⟩, field, numeral_of_toIntOrNull digits number,
        by simpa [List.intercalate] using joined.symm⟩
    case h_2 => cases made

/-! ## Shadowsocks -/

/-- The host and the port of an address. -/
def Endpoint (address host : Text) (port : Int) : Prop :=
  ∃ rest, address = host ++ ':' :: rest ∧ ':' ∉ host ∧
    toIntOrNull (substringBefore '/' rest) = some port

theorem endpoint_of_shadowsocksEndpoint {auth address : Text}
    {proxy : ProxyInfo}
    (made : shadowsocksEndpoint (splitLimit2 ':' auth)
      (splitLimit2 ':' address) = some proxy) :
    ':' ∈ auth ∧ Endpoint address proxy.host proxy.port := by
  unfold shadowsocksEndpoint at made
  split at made
  case h_1 method password host rest methodPass ipPort =>
    obtain ⟨rfl, _⟩ := splitLimit2_eq_pair methodPass
    obtain ⟨rfl, first⟩ := splitLimit2_eq_pair ipPort
    obtain ⟨port, number, rfl⟩ := Option.map_eq_some_iff.mp made
    exact ⟨List.mem_append_right _ List.mem_cons_self, rest, rfl, first,
      number⟩
  case h_2 => cases made

/-- Any integer behind the first colon becomes the port, whatever its range. -/
theorem shadowsocksEndpoint_of_endpoint {auth address host : Text} {port : Int}
    (colon : ':' ∈ auth) (endpoint : Endpoint address host port) :
    ∃ proxy, shadowsocksEndpoint (splitLimit2 ':' auth)
        (splitLimit2 ':' address) = some proxy ∧
      proxy.host = host ∧ proxy.port = port := by
  obtain ⟨method, password, rfl, absent⟩ := List.eq_append_cons_of_mem colon
  obtain ⟨rest, rfl, first, number⟩ := endpoint
  rw [splitLimit2_append _ absent, splitLimit2_append _ first]
  unfold shadowsocksEndpoint
  simp only
  rw [number]
  exact ⟨_, rfl, rfl, rfl⟩

/-- The proxy of a link is usable exactly where the link is plain. -/
theorem link_usable_iff (platform : Platform) (line : Text) :
    (∀ proxy ∈ shadowsocksLine platform line, proxy.Usable) ↔
      PlainLink platform line := by
  constructor
  · intro usable scheme auth address parts colon host rest split first port
      number
    obtain ⟨proxy, made, rfl, rfl⟩ :=
      shadowsocksEndpoint_of_endpoint colon ⟨rest, split, first, number⟩
    exact usable proxy ((parts.shadowsocksLine_eq scheme colon).trans made)
  · intro plain proxy made
    obtain ⟨scheme, auth, address, parts, endpoint⟩ :=
      linkParts_of_shadowsocksLine made
    obtain ⟨colon, rest, split, first, number⟩ :=
      endpoint_of_shadowsocksEndpoint endpoint
    exact plain scheme auth address parts colon _ rest split first _ number

/-! ## The other formats -/

theorem linkAt_server {platform : Platform} {text server port secret : Text}
    (found : linkAt platform text = some (server, port, secret)) :
    server ≠ [] := by
  unfold linkAt at found
  obtain ⟨_, _, found⟩ := Option.bind_eq_some_iff.mp found
  obtain ⟨_, _, found⟩ := Option.bind_eq_some_iff.mp found
  obtain ⟨_, _, found⟩ := Option.bind_eq_some_iff.mp found
  obtain ⟨_, _, found⟩ := Option.bind_eq_some_iff.mp found
  dsimp only at found
  obtain ⟨⟨host, _⟩, same⟩ := Option.ite_none_right_eq_some.mp found
  cases same
  exact host

/-- A link that is found names a server. -/
theorem findLink_server {platform : Platform} {text server port secret : Text}
    (found : findLink platform text = some (server, port, secret)) :
    server ≠ [] := by
  induction text with
  | nil => cases found
  | cons first rest inductionHypothesis =>
      unfold findLink at found
      split at found
      · next matched =>
          cases found
          exact linkAt_server matched
      · exact inductionHypothesis found

theorem mtprotoUrlLine_usable {platform : Platform} {line : Text}
    {proxy : ProxyInfo} (made : mtprotoUrlLine platform line = some proxy) :
    proxy.Usable := by
  obtain ⟨⟨server, port, secret⟩, found, endpoint⟩ :=
    Option.bind_eq_some_iff.mp made
  obtain ⟨rfl, _, valid, _, _⟩ := mtprotoEndpoint_eq_some endpoint
  exact ⟨findLink_server found, valid⟩

theorem mtprotoJsonServer_usable {object : JsonServer} {proxy : ProxyInfo}
    (made : mtprotoJsonServer object = some proxy) : proxy.Usable := by
  obtain ⟨host, endpoint⟩ := Option.ite_none_right_eq_some.mp made
  obtain ⟨same, _, valid, _, _⟩ := mtprotoEndpoint_eq_some endpoint
  exact ⟨same ▸ host, valid⟩

/-- The row of a table is only taken with a host and a valid port. -/
theorem htmlRow_usable {platform : Platform} {row : TableRow}
    {proxy : ProxyInfo} (made : htmlRow platform row = some proxy) :
    proxy.Usable := by
  unfold htmlRow at made
  split at made
  · obtain ⟨_, _, made⟩ := Option.bind_eq_some_iff.mp made
    obtain ⟨_, _, made⟩ := Option.bind_eq_some_iff.mp made
    obtain ⟨_, _, made⟩ := Option.bind_eq_some_iff.mp made
    obtain ⟨⟨valid, host⟩, same⟩ := Option.ite_none_right_eq_some.mp made
    cases same
    exact ⟨host, valid⟩
  · cases made

/-! ## Bodies -/

/-- What is asked of every proxy of the lines is asked of those of each line. -/
theorem forall_mem_filterMap {α β : Type} {lines : List α}
    {parse : α → Option β} {asked : β → Prop} :
    (∀ made ∈ lines.filterMap parse, asked made) ↔
      ∀ line ∈ lines, ∀ made ∈ parse line, asked made := by
  constructor
  · intro all line member made parsed
    exact all made (List.mem_filterMap.mpr ⟨line, member, parsed⟩)
  · intro all made member
    obtain ⟨line, inside, parsed⟩ := List.mem_filterMap.mp member
    exact all line inside made parsed

/-- For a format whose lines spell out the proxies. -/
theorem spelled_iff {lines : List Text} {parse : Text → Option ProxyInfo}
    {spelled : Text → ProxyInfo → Prop} {plain : Text → Prop}
    (each : ∀ line, (∀ proxy ∈ parse line,
      proxy.Usable ∧ spelled line proxy) ↔ plain line) :
    ((∀ proxy ∈ lines.filterMap parse, proxy.Usable) ∧
        ∀ line ∈ lines, ∀ proxy ∈ parse line, spelled line proxy) ↔
      ∀ line ∈ lines, plain line := by
  rw [forall_mem_filterMap]
  constructor
  · rintro ⟨usable, spelled⟩ line member
    refine (each line).mp ?_
    intro proxy made
    exact ⟨usable line member proxy made, spelled line member proxy made⟩
  · intro plain
    have both := fun line member => (each line).mpr (plain line member)
    exact ⟨fun line member proxy made => (both line member proxy made).1,
      fun line member proxy made => (both line member proxy made).2⟩

/-- The proxies of a body can be connected to and are what their lines say
exactly when the body is plain. -/
theorem endpoints_usable_iff (platform : Platform) (body : List UInt8)
    (format : Format) :
    EndpointsUsable platform body format ↔ PlainBody platform body format := by
  cases format with
  | text => exact spelled_iff text_usable_iff
  | mtproto => exact spelled_iff mtproto_usable_iff
  | base64Ss =>
      have links := fun line => link_usable_iff platform line
      constructor
      · intro usable line member
        exact (links line).mp (forall_mem_filterMap.mp usable.1 line member)
      · intro plain
        refine ⟨forall_mem_filterMap.mpr ?_, trivial⟩
        intro line member
        exact (links line).mpr (plain line member)
  | mtprotoUrl =>
      have usable : EndpointsUsable platform body .mtprotoUrl :=
        ⟨forall_mem_filterMap.mpr fun _ _ _ made => mtprotoUrlLine_usable made,
          trivial⟩
      exact iff_of_true usable trivial
  | mtprotoJson =>
      have usable : EndpointsUsable platform body .mtprotoJson :=
        ⟨forall_mem_filterMap.mpr
          fun _ _ _ made => mtprotoJsonServer_usable made, trivial⟩
      exact iff_of_true usable trivial
  | html =>
      have usable : EndpointsUsable platform body .html :=
        ⟨forall_mem_filterMap.mpr fun _ _ _ made => htmlRow_usable made,
          trivial⟩
      exact iff_of_true usable trivial

/-! ## Bodies that are not plain -/

open ShadowsocksLink (utf8Platform utf8Platform_standard)

/-- A link with a number that is no port. -/
def farLink : Text :=
  "ss://".toList ++
    (utf8Platform.toBase64 "aes:p".toList ++ '@' :: "192.0.2.1:99999".toList)

def linkList : List UInt8 :=
  utf8Platform.bytes (utf8Platform.toBase64 farLink)

/-- A link with a port beyond 65535 is listed. -/
theorem fetchFromUrl_linkList :
    fetchFromUrl utf8Platform linkList .base64Ss =
      [{ host := "192.0.2.1".toList, port := 99999, type := .shadowsocks,
         method := some "aes".toList, password := some "p".toList }] := by
  have parts : LinkParts utf8Platform
      (substringBefore '#' ((trim farLink).drop 5))
      "aes:p".toList "192.0.2.1:99999".toList :=
    .partly (by decide)
      (show '@' ∉ utf8Platform.toBase64 "aes:p".toList by decide)
      (utf8Platform_standard.decode _)
  have made := parts.shadowsocksLine_eq (by decide) (by decide)
  have decoded : (utf8Platform.base64 linkList).map utf8Platform.utf8 =
      some farLink := utf8Platform_standard.decode farLink
  have lines : lineSequence farLink = [farLink] := by
    decide
  unfold fetchFromUrl
  simp only
  rw [decoded, Option.getD_some, lines, List.filterMap_cons, made]
  decide

/-- The body with this text. -/
def bodyOf (text : Text) : List UInt8 :=
  utf8Platform.bytes text

theorem utf8_bodyOf (text : Text) : utf8Platform.utf8 (bodyOf text) = text :=
  utf8Platform_standard.utf8 text

/-- The scheme of a line is taken for the host, a missing host for one, and the
number in a link for a port. -/
theorem unusable_endpoints_listed :
    ∃ text mtproto links : List UInt8,
      (fetchFromUrl utf8Platform text .text =
          [{ host := "socks5".toList, port := 1080 }] ∧
        ¬EndpointsUsable utf8Platform text .text) ∧
      (fetchFromUrl utf8Platform mtproto .mtproto =
          [{ host := [], port := 443, type := .mtproto,
             secret := "dd00".toList }] ∧
        ¬EndpointsUsable utf8Platform mtproto .mtproto) ∧
      fetchFromUrl utf8Platform links .base64Ss =
          [{ host := "192.0.2.1".toList, port := 99999, type := .shadowsocks,
             method := some "aes".toList, password := some "p".toList }] ∧
        ¬EndpointsUsable utf8Platform links .base64Ss := by
  refine ⟨bodyOf "socks5://192.0.2.1:1080".toList, bodyOf ":443:dd00".toList,
    linkList, ⟨?_, ?_⟩, ⟨?_, ?_⟩, fetchFromUrl_linkList, ?_⟩
  · unfold fetchFromUrl
    rw [utf8_bodyOf]
    decide
  · intro usable
    have plain := (spelled_iff text_usable_iff).mp usable
    rw [utf8_bodyOf] at plain
    have fieldsPlain := plain "socks5://192.0.2.1:1080".toList (by decide)
      (by decide) (by decide) "socks5".toList ["//192.0.2.1".toList]
      "1080".toList (by decide) 1080 (by decide) (by decide)
    exact absurd fieldsPlain.1 (by decide)
  · unfold fetchFromUrl
    rw [utf8_bodyOf]
    decide
  · intro usable
    have plain := (spelled_iff mtproto_usable_iff).mp usable
    rw [utf8_bodyOf] at plain
    have fieldsPlain := plain ":443:dd00".toList (by decide) [] "443".toList
      "dd00".toList (by decide) (by decide) 443 (by decide) (by decide)
    exact fieldsPlain.1 rfl
  · intro usable
    have each := usable.1
    rw [fetchFromUrl_linkList] at each
    exact absurd (each _ List.mem_cons_self).2 (by decide)

end ScrapedEndpoints

end ProxyVPN
