/-
Module: ProxyVPN.App.ProxyKeys
Purpose: The texts by which proxies are told apart, beside `equals` and
  `hashCode`: the keys of `loadProxies` and `backgroundRefresh`, the set behind
  `distinct()`, and the addresses of the favorites in `fetchProxies`.
Trusted boundary: human-reviewed model
Main exports: ProxyInfo.equals, ProxyInfo.hashCode, ProxyInfo.byKey,
  ProxyFinder.Search.Noted, ProxyInfo.keys_agree_with_equals
-/
import ProxyVPN.App.MainViewModel
import ProxyVPN.App.ProxyFinder
import ProxyVPN.Lib.HashSet

namespace ProxyVPN

open Kotlin

namespace ProxyInfo

def equals (self other : ProxyInfo) : Bool :=
  self.port = other.port && self.host = other.host && self.type = other.type

/-- The code of the text `"$host:$port:$type"`. -/
def hashCode (self : ProxyInfo) : Int32 :=
  Kotlin.hashCode self.key

theorem equals_iff {left right : ProxyInfo} :
    left.equals right = true ↔ left.identity = right.identity := by
  simp only [equals, identity, Bool.and_eq_true, decide_eq_true_eq, Prod.mk.injEq]
  constructor
  · rintro ⟨⟨port, host⟩, type⟩
    exact ⟨host, port, type⟩
  · rintro ⟨host, port, type⟩
    exact ⟨⟨port, host⟩, type⟩

theorem key_eq_iff_equals {left right : ProxyInfo} :
    left.key = right.key ↔ left.equals right = true := by
  rw [key_eq_iff, equals_iff]

/-- Proxies are compared and hashed by their keys. -/
theorem byKey : HashSet.ByKey hashCode equals key where
  equals_iff _ _ := key_eq_iff_equals.symm
  hashCode_eq _ _ same := congrArg Kotlin.hashCode same

/-- The same by what `equals` compares. -/
theorem byIdentity : HashSet.ByKey hashCode equals identity where
  equals_iff _ _ := equals_iff
  hashCode_eq _ _ same := congrArg Kotlin.hashCode (key_eq_iff.mpr same)

/-- A key is among those of a list if and only if an equal proxy is. -/
theorem key_mem_iff {proxy : ProxyInfo} {list : List ProxyInfo} :
    proxy.key ∈ list.map key ↔ ∃ other ∈ list, proxy.equals other = true := by
  rw [List.mem_map]
  constructor
  · rintro ⟨other, inside, same⟩
    exact ⟨other, inside, key_eq_iff_equals.mp same.symm⟩
  · rintro ⟨other, inside, equal⟩
    exact ⟨other, inside, (key_eq_iff_equals.mpr equal).symm⟩

end ProxyInfo

namespace ProxyFinder

/-- The keys a search has noted are those of the proxies it has collected, the
last one first. -/
def Search.Noted (search : Search) : Prop :=
  search.usedIps = (search.allWorking.map ProxyInfo.key).reverse

theorem Search.Noted.collect {working : List ProxyInfo} :
    ∀ {search : Search}, search.Noted → (search.collect working).Noted := by
  induction working with
  | nil => exact id
  | cons first rest inductionHypothesis =>
      intro search noted
      unfold Search.collect
      rw [List.foldl_cons]
      apply inductionHypothesis
      by_cases known : first.key ∈ search.usedIps
      · rw [if_pos known]
        exact noted
      · rw [if_neg known]
        unfold Search.Noted
        rw [List.map_append, List.reverse_append, ← noted]
        rfl

theorem Search.Noted.searchProxies {platform : Platform}
    {finder : ProxyFinder} {outside : Outside} {proxyType : ProxyType}
    {attempts : List Nat} {search : Search} (noted : search.Noted) :
    (searchProxies platform finder outside proxyType attempts
      search).Noted := by
  refine searchProxies_keeps Search.Noted ?_ ?_ noted
  · intro search sourceIndex noted
    exact noted
  · intro search working noted _
    exact noted.collect

theorem Search.Noted.key_mem_iff {search : Search} (noted : search.Noted)
    {proxy : ProxyInfo} :
    proxy.key ∈ search.usedIps ↔
      ∃ other ∈ search.allWorking, proxy.equals other = true := by
  rw [noted, List.mem_reverse, ProxyInfo.key_mem_iff]

end ProxyFinder

/-- A text `"${it.ip}:${it.port}"` is among those of a list if and only if an
item has the host and the port. -/
theorem ProxyInfo.hostPort_mem_iff {info : ProxyInfo} {favs : List ProxyItem} :
    info.hostPort ∈ favs.map ProxyItem.key ↔
      ∃ fav ∈ favs, fav.ip = info.host ∧ fav.port = info.port := by
  have same (fav : ProxyItem) : fav.key = info.hostPort ↔
      fav.ip = info.host ∧ fav.port = info.port :=
    @hostPort_eq_iff { host := fav.ip, port := fav.port } info
  rw [List.mem_map]
  exact exists_congr fun fav => and_congr_right fun _ => same fav

/-- Keys, `equals` and `hashCode` tell the same proxies apart: as texts, in the
set of `distinct()`, in the keys noted by a search in any of its states, in the
keys of a cached or merged list, and in the set of the favorites. -/
theorem ProxyInfo.keys_agree_with_equals :
    (∀ p q : ProxyInfo, p.key = q.key ↔ p.equals q = true) ∧
    (∀ p q : ProxyInfo, p.equals q = true → p.hashCode = q.hashCode) ∧
    (∀ proxies : List ProxyInfo,
      HashSet.distinct hashCode equals proxies = distinctBy key proxies ∧
      HashSet.distinct hashCode equals proxies =
        distinctBy identity proxies) ∧
    (∀ (platform : Platform) (body : String → List UInt8) (sourceIndex : Nat)
        (proxyType : ProxyType),
      (ProxyFinder.fetchAllProxies platform body sourceIndex proxyType).1 =
        HashSet.distinct hashCode equals
          ((ProxyFinder.sourcesOf sourceIndex proxyType).flatMap
            fun (url, format) => fetchFromUrl platform (body url) format)) ∧
    (∀ (platform : Platform) (finder : ProxyFinder) (outside : Outside)
        (proxyType : ProxyType) (attempts : List Nat) (sourceIndex : Nat)
        (p : ProxyInfo),
      let search := finder.searchProxies platform outside proxyType attempts
        { sourceIndex := sourceIndex, usedIps := [], allWorking := [] }
      p.key ∈ search.usedIps ↔
        ∃ q ∈ search.allWorking, p.equals q = true) ∧
    (∀ (p : ProxyInfo) (list : List ProxyInfo),
      p.key ∈ list.map key ↔ ∃ q ∈ list, p.equals q = true) ∧
    (∀ (info : ProxyInfo) (favs : List ProxyItem),
      (ProxyItem.ofInfo (favs.map ProxyItem.key) info).isFavorite = true ↔
        ∃ fav ∈ favs, fav.ip = info.host ∧ fav.port = info.port) := by
  refine ⟨?_, ?_, ?_, ?_, ?_, ?_, ?_⟩
  · intro p q
    exact key_eq_iff_equals
  · intro p q equal
    exact byKey.hashCode_eq p q (key_eq_iff_equals.mpr equal)
  · intro proxies
    exact ⟨byKey.distinct_eq proxies, byIdentity.distinct_eq proxies⟩
  · intro platform body sourceIndex proxyType
    exact (byIdentity.distinct_eq _).symm
  · intro platform finder outside proxyType attempts sourceIndex p
    have noted : ProxyFinder.Search.Noted
        { sourceIndex := sourceIndex, usedIps := [], allWorking := [] } := rfl
    exact noted.searchProxies.key_mem_iff
  · intro p list
    exact key_mem_iff
  · intro info favs
    have flag : (ProxyItem.ofInfo (favs.map ProxyItem.key) info).isFavorite =
        true ↔ info.hostPort ∈ favs.map ProxyItem.key :=
      decide_eq_true_iff
    rw [flag, hostPort_mem_iff]

end ProxyVPN
