/-
Module: ProxyVPN.Hev.Lwip
Purpose: The parts of the lwIP interface the session tasks rely on: error
  codes, the window constants, and pbuf chains as lists of payloads.
Trusted boundary: human-reviewed model
Main exports: ErrT, ERR_OK, ERR_MEM, TCP_MSS, TCP_WND, TCP_SND_BUF, u16,
  pbufFreeHeader, pbufCat
-/
import Mathlib.Data.List.Basic

namespace ProxyVPN.Lwip

/-- `err_t`, a signed byte. -/
abbrev ErrT := BitVec 8

def ERR_OK : ErrT := 0#8

def ERR_MEM : ErrT := BitVec.ofInt 8 (-1)

def TCP_MSS : Nat := 8191

def TCP_WND : Nat := 8 * TCP_MSS

def TCP_SND_BUF : Nat := 8 * TCP_MSS

/-- The value a `u16_t` parameter takes. -/
def u16 (value : Nat) : Nat := value % 65536

/-- A pbuf chain: the payload of each pbuf, in order. -/
abbrev Pbuf := List (List UInt8)

/-- `pbuf_cat`. -/
def pbufCat (head tail : Pbuf) : Pbuf := head ++ tail

/-- The loop of `pbuf_free_header`, with `freeLeft` bytes to remove. -/
def pbufFreeLeft : Pbuf → Nat → Pbuf
  | [], _ => []
  | payload :: rest, freeLeft =>
      if freeLeft = 0 then
        payload :: rest
      else if payload.length ≤ freeLeft then
        pbufFreeLeft rest (freeLeft - payload.length)
      else
        payload.drop freeLeft :: rest

/-- `pbuf_free_header`, whose size is a `u16_t`. -/
def pbufFreeHeader (queue : Pbuf) (size : Nat) : Pbuf :=
  pbufFreeLeft queue (u16 size)

/-- Freeing a header removes that many bytes from the front of the chain. -/
theorem flatten_pbufFreeLeft (queue : Pbuf) (freeLeft : Nat) :
    (pbufFreeLeft queue freeLeft).flatten = queue.flatten.drop freeLeft := by
  induction queue generalizing freeLeft with
  | nil => simp [pbufFreeLeft]
  | cons payload rest inductionHypothesis =>
      unfold pbufFreeLeft
      split
      case isTrue none => simp [none]
      case isFalse =>
        split
        case isTrue whole =>
          rw [inductionHypothesis, List.flatten_cons, List.drop_append,
            List.drop_eq_nil_of_le whole, List.nil_append]
        case isFalse part =>
          rw [List.flatten_cons, List.flatten_cons,
            List.drop_append_of_le_length (by omega)]

/-- The first buffers hold a beginning of the chain. -/
theorem flatten_take_within (queue : Pbuf) (buffers : Nat) :
    (queue.take buffers).flatten <+: queue.flatten := by
  refine ⟨(queue.drop buffers).flatten, ?_⟩
  rw [← List.flatten_append, List.take_append_drop]

end ProxyVPN.Lwip
