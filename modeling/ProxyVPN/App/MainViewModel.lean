/-
Module: ProxyVPN.App.MainViewModel
Purpose: The proxy list of MainViewModel.kt with the pool and the favorites it
  keeps in the preferences: the functions that change them, these functions
  called one after another, and the coroutines that run between other calls.
Trusted boundary: human-reviewed model; what is stored in the preferences is
  read back unchanged.
Main exports: ProxyItem, MainViewModel, MainViewModel.system, ProxyLists,
  ProxyLists.system, ViewModelScope, ViewModelScope.system
-/
import ProxyVPN.App.ProxySources
import ProxyVPN.Lib.Keyed
import ProxyVPN.Lib.Transition

namespace ProxyVPN

open Kotlin Keyed Transition

structure ProxyItem where
  ip : Text
  port : Int
  country : Text := "Global".toList
  ping : Int := 0
  isFavorite : Bool := false
  method : Option Text := none
  password : Option Text := none
deriving DecidableEq

namespace ProxyItem

/-- What tells the items of a list apart: the ip and the port. -/
def address (item : ProxyItem) : Text × Int :=
  (item.ip, item.port)

/-- The text `"${it.ip}:${it.port}"`. -/
def key (item : ProxyItem) : Text :=
  item.ip ++ ':' :: (toString item.port).toList

/-- The item of a proxy that the finder returned. -/
def ofInfo (favSet : List Text) (info : ProxyInfo) : ProxyItem where
  ip := info.host
  port := info.port
  country := info.location.getD "Global".toList
  ping := toInt (info.responseTime * 1000)
  isFavorite := info.hostPort ∈ favSet
  method := info.method
  password := info.password

end ProxyItem

/-- The list that is shown, the selected proxy, and the preferences
`proxy_pool` and `favs_v3`. -/
structure MainViewModel where
  proxies : List ProxyItem
  selectedProxy : Option ProxyItem
  proxyPool : List ProxyItem
  favsV3 : List ProxyItem
deriving DecidableEq

namespace MainViewModel

/-- Before the first start nothing is stored. -/
def initial : MainViewModel :=
  { proxies := [], selectedProxy := none, proxyPool := [], favsV3 := [] }

/-! ## Favorites -/

def vlessIp : Text := "proxy-vpn.stk-lab7.workers.dev".toList

def vlessItem : ProxyItem where
  ip := vlessIp
  port := 443
  country := "Vless Cloudflare".toList
  ping := 0
  isFavorite := true
  method := some "VLESS".toList
  password := some "e1830450-8ac0-4850-be71-3afe3ab603b2".toList

/-- The stored favorites, with the VLESS worker put in front of them where none
has its ip. -/
def getFavorites (self : MainViewModel) : List ProxyItem :=
  if hasKey ProxyItem.ip self.favsV3 vlessIp then self.favsV3
  else vlessItem :: self.favsV3

def toggleFavorite (self : MainViewModel) (proxy : ProxyItem) :
    MainViewModel :=
  let favs := self.getFavorites
  let index := favs.findIdx? fun fav => fav.address = proxy.address
  let isFav := index.isNone
  let saved :=
    match index with
    | some index => favs.eraseIdx index
    | none => favs ++ [{ proxy with isFavorite := true }]
  { self with
    favsV3 := saved
    proxies := self.proxies.map fun item =>
      if item.address = proxy.address then { item with isFavorite := isFav }
      else item }

def customProxy (ip : Text) (port : Int) : ProxyItem where
  ip := ip
  port := port
  country := "Custom".toList
  ping := 0
  isFavorite := true

def addCustomProxy (self : MainViewModel) (ip : Text) (port : Int) :
    MainViewModel :=
  { self with
    favsV3 :=
      if hasKey ProxyItem.address self.getFavorites (ip, port) then self.favsV3
      else self.getFavorites ++ [customProxy ip port]
    proxies :=
      if hasKey ProxyItem.address self.proxies (ip, port) then self.proxies
      else customProxy ip port :: self.proxies }

/-! ## The list of proxies -/

/-- A favorite is added to the pool, or the item of its address marked. -/
def mergeFavorite (merged : List ProxyItem) (fav : ProxyItem) :
    List ProxyItem :=
  match merged.findIdx? fun item => item.address = fav.address with
  | none => merged ++ [fav]
  | some index =>
      merged.modify index fun item => { item with isFavorite := true }

/-- The `init` block of a new view model, up to the coroutine it starts. -/
def restart (self : MainViewModel) : MainViewModel :=
  { self with
    proxies := self.getFavorites.foldl mergeFavorite self.proxyPool
    selectedProxy := none }

/-- The items of the snapshot that stay: favorites, and those that passed. -/
def finalProxies (current : List ProxyItem) (results : List Bool) :
    List ProxyItem :=
  let tested := (current.zip results).filterMap fun (proxy, passed) =>
    if passed then some proxy else none
  current.filter fun item =>
    item.isFavorite || hasKey ProxyItem.address tested item.address

/-- What `quickCheckProxies` does after its tests of the snapshot. -/
def quickCheckFinish (self : MainViewModel) (current : List ProxyItem)
    (results : List Bool) : MainViewModel :=
  let final := finalProxies current results
  { self with proxies := final, proxyPool := final }

/-- What `fetchProxies` computes off the main thread. -/
def fetchResult (self : MainViewModel) (infos : List ProxyInfo) :
    List ProxyItem :=
  let favs := self.getFavorites
  let scraped := infos.map (ProxyItem.ofInfo (favs.map ProxyItem.key))
  let notScrapedFavs := favs.filter fun fav =>
    !hasKey ProxyItem.address scraped fav.address
  notScrapedFavs ++ scraped

/-- What `fetchProxies` does with its result. -/
def fetchFinish (self : MainViewModel) (result : List ProxyItem) :
    MainViewModel :=
  let limitedPool :=
    (addMissing ProxyItem.address self.proxies result).take 50
  { self with
    proxies := limitedPool
    proxyPool := limitedPool
    selectedProxy := self.selectedProxy.or result.head? }

/-- `fetchProxies` goes on to the finder. -/
def fetches (self : MainViewModel) (forceRefresh : Bool) : Bool :=
  forceRefresh || self.proxies.isEmpty

/-! ## One call after another -/

/-- Complete calls.  The finder returns proxies or throws, and a quick check
gets the result of every test. -/
inductive Call where
  | restart
  | toggleFavorite (proxy : ProxyItem)
  | addCustomProxy (ip : Text) (port : Int)
  | fetchProxies (forceRefresh : Bool) (infos : Option (List ProxyInfo))
  | quickCheckProxies (results : List Bool)

def fetchProxies (self : MainViewModel) (forceRefresh : Bool) :
    Option (List ProxyInfo) → MainViewModel
  | some infos =>
      if self.fetches forceRefresh then
        self.fetchFinish (self.fetchResult infos)
      else
        self
  | none => self

def quickCheckProxies (self : MainViewModel) (results : List Bool) :
    Option MainViewModel :=
  if self.proxies = [] then
    some self
  else if results.length = self.proxies.length then
    some (self.quickCheckFinish self.proxies results)
  else
    none

def exec (self : MainViewModel) : Call → Option MainViewModel
  | .restart => some self.restart
  | .toggleFavorite proxy => some (self.toggleFavorite proxy)
  | .addCustomProxy ip port => some (self.addCustomProxy ip port)
  | .fetchProxies forceRefresh infos =>
      some (self.fetchProxies forceRefresh infos)
  | .quickCheckProxies results => self.quickCheckProxies results

def system : System MainViewModel Call :=
  .ofExec (· = initial) exec

end MainViewModel

/-! ## Coroutines -/

/-- The view model with its suspended coroutines, of which there may be any
number: fetches with what they have computed once the finder has returned, and
quick checks with their snapshots. -/
structure ProxyLists where
  model : MainViewModel
  fetches : List (Option (List ProxyItem))
  quickChecks : List (List ProxyItem)

namespace ProxyLists

open MainViewModel

def initial : ProxyLists :=
  { model := .initial, fetches := [], quickChecks := [] }

/-- Calls up to their first suspension, and suspended coroutines going on. -/
inductive Label where
  | restart
  | toggleFavorite (proxy : ProxyItem)
  | addCustomProxy (ip : Text) (port : Int)
  | fetchProxies (forceRefresh : Bool)
  | fetchRead (index : Nat) (infos : List ProxyInfo)
  | fetchResume (index : Nat)
  | fetchThrows (index : Nat)
  | quickCheckProxies
  | quickCheckResume (index : Nat) (results : List Bool)
  | quickCheckThrows (index : Nat)

/-- `fetchProxies` up to `withContext`. -/
def fetchProxies (self : ProxyLists) (forceRefresh : Bool) : ProxyLists :=
  if self.model.fetches forceRefresh then
    { self with fetches := self.fetches ++ [none] }
  else
    self

/-- The block of `withContext`, from the finder's return to its end. -/
def fetchRead (self : ProxyLists) (index : Nat) (infos : List ProxyInfo) :
    Option ProxyLists :=
  if self.fetches[index]? = some none then
    some
      { self with
        fetches := self.fetches.set index (some (self.model.fetchResult infos)) }
  else
    none

/-- `fetchProxies` behind `withContext`. -/
def fetchResume (self : ProxyLists) (index : Nat) : Option ProxyLists :=
  match self.fetches[index]? with
  | some (some result) =>
      some
        { self with
          model := self.model.fetchFinish result
          fetches := self.fetches.eraseIdx index }
  | _ => none

def fetchThrows (self : ProxyLists) (index : Nat) : Option ProxyLists :=
  if self.fetches[index]? = some none then
    some { self with fetches := self.fetches.eraseIdx index }
  else
    none

/-- `quickCheckProxies` up to `withContext`. -/
def quickCheckProxies (self : ProxyLists) : ProxyLists :=
  if self.model.proxies.isEmpty then self
  else { self with quickChecks := self.quickChecks ++ [self.model.proxies] }

/-- `quickCheckProxies` behind `withContext`.  A list with few proxies left is
fetched again. -/
def quickCheckResume (self : ProxyLists) (index : Nat) (results : List Bool) :
    Option ProxyLists :=
  match self.quickChecks[index]? with
  | some current =>
      if results.length = current.length then
        let finished :=
          { self with
            model := self.model.quickCheckFinish current results
            quickChecks := self.quickChecks.eraseIdx index }
        some
          (if finished.model.proxies.countP (fun item => !item.isFavorite) < 6
            then finished.fetchProxies true
            else finished)
      else
        none
  | none => none

def quickCheckThrows (self : ProxyLists) (index : Nat) : Option ProxyLists :=
  if self.quickChecks[index]?.isSome then
    some { self with quickChecks := self.quickChecks.eraseIdx index }
  else
    none

/-- The process is started again and its coroutines are gone. -/
def restart (self : ProxyLists) : ProxyLists :=
  let started : ProxyLists :=
    { model := self.model.restart, fetches := [], quickChecks := [] }
  if started.model.proxies.countP (fun item => !item.isFavorite) = 0 then
    started.fetchProxies true
  else
    started.quickCheckProxies

def exec (self : ProxyLists) : Label → Option ProxyLists
  | .restart => some self.restart
  | .toggleFavorite proxy =>
      some { self with model := self.model.toggleFavorite proxy }
  | .addCustomProxy ip port =>
      some { self with model := self.model.addCustomProxy ip port }
  | .fetchProxies forceRefresh => some (self.fetchProxies forceRefresh)
  | .fetchRead index infos => self.fetchRead index infos
  | .fetchResume index => self.fetchResume index
  | .fetchThrows index => self.fetchThrows index
  | .quickCheckProxies => some self.quickCheckProxies
  | .quickCheckResume index results => self.quickCheckResume index results
  | .quickCheckThrows index => self.quickCheckThrows index

/-- All orders of calls and resumed coroutines. -/
def system : System ProxyLists Label :=
  .ofExec (· = initial) exec

end ProxyLists

/-! ## The coroutines of one process -/

/-- The same for a process, in which only the `init` block starts a quick check.
The fields are not in the source: the addresses that calls have added to the list
since the snapshot was taken, and the last value of each flag that calls have
changed since. -/
structure ViewModelScope extends ProxyLists where
  added : List (Text × Int)
  changed : List ((Text × Int) × Bool)

namespace ViewModelScope

def initial : ViewModelScope :=
  { ProxyLists.initial with added := [], changed := [] }

inductive Label where
  | restart
  | toggleFavorite (proxy : ProxyItem)
  | addCustomProxy (ip : Text) (port : Int)
  | fetchCall (forceRefresh : Bool)
  | fetchRead (index : Nat) (infos : List ProxyInfo)
  | fetchResume (index : Nat)
  | fetchThrows (index : Nat)
  | quickCheckResume (results : List Bool)
  | quickCheckThrows

/-- The step of the lists.  There is only one quick check to go on. -/
def Label.ofLists : Label → ProxyLists.Label
  | .restart => .restart
  | .toggleFavorite proxy => .toggleFavorite proxy
  | .addCustomProxy ip port => .addCustomProxy ip port
  | .fetchCall forceRefresh => .fetchProxies forceRefresh
  | .fetchRead index infos => .fetchRead index infos
  | .fetchResume index => .fetchResume index
  | .fetchThrows index => .fetchThrows index
  | .quickCheckResume results => .quickCheckResume 0 results
  | .quickCheckThrows => .quickCheckThrows 0

/-- The snapshot of the quick check that is suspended. -/
def quickCheck (self : ViewModelScope) : Option (List ProxyItem) :=
  self.quickChecks[0]?

/-- Note what a call has done to the list. -/
def note (self : ViewModelScope) (lists : ProxyLists) : ViewModelScope :=
  let before := self.model.proxies
  let isNew := fun item : ProxyItem =>
    !hasKey ProxyItem.address before item.address
  let flagged := lists.model.proxies.filter fun item =>
    before.any fun old =>
      old.address = item.address && old.isFavorite != item.isFavorite
  { lists with
    added :=
      self.added ++ (lists.model.proxies.filter isNew).map ProxyItem.address
    changed :=
      self.changed.filter (fun change =>
        !hasKey ProxyItem.address flagged change.1) ++
      flagged.map fun item => (item.address, item.isFavorite) }

/-- What is noted of a step: nothing of what a quick check writes itself, and
after a restart there is nothing to note. -/
def after (self : ViewModelScope) (lists : ProxyLists) : Label → ViewModelScope
  | .restart => { lists with added := [], changed := [] }
  | .toggleFavorite _ | .addCustomProxy _ _ | .fetchResume _ => self.note lists
  | _ => { self with toProxyLists := lists }

def exec (self : ViewModelScope) (label : Label) : Option ViewModelScope :=
  (self.toProxyLists.exec label.ofLists).map fun lists => self.after lists label

/-- All orders of calls and resumed coroutines on the main thread. -/
def system : System ViewModelScope Label :=
  .ofExec (· = initial) exec

end ViewModelScope

end ProxyVPN
