/-
Module: ProxyVPN.Hev.MappedDnsHandle
Purpose: The DNS responder of hev-mapped-dns.c: the walk over the questions of
  a request, which it rewrites in place, and the answers it appends to a copy
  of the request.
Trusted boundary: human-reviewed model
Main exports: HevMappedDNS.cString, HevMappedDNS.skipLabels,
  HevMappedDNS.question, HevMappedDNS.answer, HevMappedDNS.handle
-/
import Mathlib.Data.BitVec
import ProxyVPN.Hev.MappedDns
import ProxyVPN.Lib.CheckedArray

namespace ProxyVPN

open CheckedArray

namespace HevMappedDNS

/-!
The two buffers and the local arrays are checked lists, so that an access
outside of them is an error.  The header fields that the code stores in host
order are swapped in memory, as on a little-endian host.
-/

/-- `read_u16`. -/
def readU16 (p : List UInt8) (index : Nat) : Except Error Nat := do
  let high ← read p index
  let low ← read p (index + 1)
  return high.toNat * 256 + low.toNat

/-- `write_u16`. -/
def writeU16 (p : List UInt8) (index v : Nat) : Except Error (List UInt8) :=
  copy [UInt8.ofNat (v / 256), UInt8.ofNat v] 0 p index 2

/-- `write_u32`. -/
def writeU32 (p : List UInt8) (index : Nat) (v : BitVec 32) :
    Except Error (List UInt8) :=
  copy [UInt8.ofNat (v.toNat / 2 ^ 24), UInt8.ofNat (v.toNat / 2 ^ 16),
    UInt8.ofNat (v.toNat / 2 ^ 8), UInt8.ofNat v.toNat] 0 p index 4

/-- `x = ntohs (x)` of a field in the buffer: its value, and the buffer. -/
def ntohsField (p : List UInt8) (index : Nat) :
    Except Error (Nat × List UInt8) := do
  let high ← read p index
  let low ← read p (index + 1)
  let p ← write p index low
  let p ← write p (index + 1) high
  return (high.toNat * 256 + low.toNat, p)

/-- The C string at an index of a buffer. -/
def cString (p : List UInt8) (index : Nat) : Except Error CString :=
  if 0 ∈ p.drop index then
    .ok
      { bytes := (p.drop index).takeWhile (· ≠ 0)
        noZero := by
          intro zero
          have passed := List.all_eq_true.mp List.all_takeWhile 0 zero
          exact of_decide_eq_true passed rfl }
  else
    .error .indexOutOfBounds

/-- The variables of the loop over the questions. -/
structure Questions where
  rb : List UInt8
  off : Nat
  ips : List (BitVec 32)
  ipo : List Nat
  ipn : Nat
  cache : HevMappedDNS

/-- `while (rb[off])`: the buffer and the offset it leaves, and whether it goes
on behind the loop.  Each round moves on by at least one byte, so that the
length of the buffer bounds their number; the first argument counts it. -/
def skipLabels : Nat → List UInt8 → Nat →
    Except Error (Option (List UInt8 × Nat × Bool))
  | 0, _, _ => .ok none
  | rounds + 1, rb, off => do
      let len ← read rb off
      if len = 0 then
        return some (rb, off, true)
      else if rb.length ≤ off + 1 + len.toNat then
        return some (rb, off + 1 + len.toNat, false)
      else
        let rb ← write rb off 46
        skipLabels rounds rb (off + 1 + len.toNat)

/-- The name of question `ipn` is looked for, and its address is kept.  There
is no result where the search has none. -/
def findQuestion (outcome : HevMappedDNS → CString → FindOutcome)
    (self : Questions) : Except Error (Option (Questions × Bool)) := do
  let start ← read self.ipo self.ipn
  let name ← cString self.rb (start + 1)
  match self.cache.find name (outcome self.cache name) with
  | none => return none
  | some (idx, cache) =>
      if idx ≥ 0 then
        let ips ← write self.ips self.ipn
          (self.cache.net ||| BitVec.ofInt 32 idx)
        return some ({ self with
          ips := ips, ipn := self.ipn + 1, cache := cache }, true)
      else
        return some ({ self with cache := cache }, true)

/-- One round of the loop over the questions, and whether the loop goes on;
otherwise the function returns -1. -/
def question (outcome : HevMappedDNS → CString → FindOutcome)
    (self : Questions) : Except Error (Option (Questions × Bool)) := do
  let ipo ← write self.ipo self.ipn self.off
  if self.rb.length ≤ self.off then
    return some ({ self with ipo := ipo }, false)
  else
    match ← skipLabels self.rb.length self.rb self.off with
    | none => return none
    | some (rb, off, false) =>
        return some ({ self with ipo := ipo, rb := rb, off := off }, false)
    | some (rb, off, true) =>
        let self := { self with ipo := ipo, rb := rb, off := off + 1 }
        if self.rb.length ≤ self.off + 3 then
          return some (self, false)
        else
          let qtype ← readU16 self.rb self.off
          let qclass ← readU16 self.rb (self.off + 2)
          if qtype = 1 ∧ qclass = 1 then
            match ← findQuestion outcome self with
            | none => return none
            | some (self, more) =>
                return some ({ self with off := self.off + 4 }, more)
          else
            return some ({ self with off := self.off + 4 }, true)

/-- The loop over the questions from number `i` on, `left` of them. -/
def questions (outcomes : Nat → HevMappedDNS → CString → FindOutcome) :
    Nat → Nat → Questions → Except Error (Option (Questions × Bool))
  | 0, _, self => .ok (some (self, true))
  | left + 1, i, self => do
      match ← question (outcomes i) self with
      | some (self, true) => questions outcomes left (i + 1) self
      | stopped => return stopped

/-- The sixteen bytes of one answer. -/
def answer (sb : List UInt8) (off ipo : Nat) (ip : BitVec 32) :
    Except Error (List UInt8) := do
  let sb ← writeU16 sb off (0xc000 ||| ipo)
  let sb ← writeU16 sb (off + 2) 1
  let sb ← writeU16 sb (off + 4) 1
  let sb ← writeU32 sb (off + 6) 1
  let sb ← writeU16 sb (off + 10) 4
  writeU32 sb (off + 12) ip

/-- The loop over the answers from number `i` on, `left` of them: the response,
the offset, and whether there was room for all. -/
def answers (ips : List (BitVec 32)) (ipo : List Nat) :
    Nat → Nat → List UInt8 → Nat → Except Error (List UInt8 × Nat × Bool)
  | 0, _, sb, off => .ok (sb, off, true)
  | left + 1, i, sb, off =>
      if sb.length ≤ off + 15 then
        .ok (sb, off, false)
      else do
        let start ← read ipo i
        let ip ← read ips i
        let sb ← answer sb off start ip
        answers ips ipo left (i + 1) sb (off + 16)

/-- The returned value, both buffers, and the cache. -/
structure Handled where
  res : Int
  rb : List UInt8
  sb : List UInt8
  cache : HevMappedDNS

/-- The part of the function behind the check of the number of questions. -/
def respond (outcomes : Nat → HevMappedDNS → CString → FindOutcome)
    (self : HevMappedDNS) (qd fl : Nat) (rb sb : List UInt8) :
    Except Error (Option Handled) := do
  let walk ← questions outcomes qd 0
    { rb := rb
      off := 12
      ips := List.replicate 32 0
      ipo := List.replicate 32 0
      ipn := 0
      cache := self }
  match walk with
  | none => return none
  | some (walk, false) => return some ⟨-1, walk.rb, sb, walk.cache⟩
  | some (walk, true) =>
      let (sb, off, room) ← answers walk.ips walk.ipo walk.ipn 0 sb walk.off
      if room then
        let sb ← writeU16 sb 2 (fl ||| 0x8000 ||| (fl &&& 0x100) >>> 1)
        let sb ← writeU16 sb 6 walk.ipn
        return some ⟨off, walk.rb, sb, walk.cache⟩
      else
        return some ⟨-1, walk.rb, sb, walk.cache⟩

/-- `UDP_BUF_SIZE`, the room that the caller has for a response. -/
def udpBufSize : Nat := 1500

/-- `hev_mapped_dns_handle`; the lengths of the lists are `qlen` and `slen`. -/
def handle (outcomes : Nat → HevMappedDNS → CString → FindOutcome)
    (self : HevMappedDNS) (req res : List UInt8) :
    Except Error (Option Handled) :=
  if res.length < req.length then
    .ok (some ⟨-1, req, res, self⟩)
  else if req.length < 12 then
    .ok (some ⟨-1, req, res, self⟩)
  else do
    let sb ← copy req 0 res 0 req.length
    let (qd, rb) ← ntohsField req 4
    let (fl, sb) ← ntohsField sb 2
    let sb ← writeU16 sb 8 0
    let sb ← writeU16 sb 6 0
    let sb ← writeU16 sb 10 0
    if 32 < qd then
      return some ⟨-1, rb, sb, self⟩
    else
      respond outcomes self qd fl rb sb

end HevMappedDNS

end ProxyVPN
