import BuildDispatch.Host.Programs.Basic

/-!
Bytes as letters: three bytes become four letters, each of which stands for six bits.
-/

namespace BuildDispatch.Host.Programs

/-- The letters, by their values. -/
def packingLetters : Bytes :=
  .ofText "ABCDEFGHIJKLMNOPQRSTUVWXYZabcdefghijklmnopqrstuvwxyz0123456789+/"

/-- The letter of a value. -/
def packedLetter (n : Nat) : UInt8 := packingLetters.getD (n % 64) 0

/-- Bytes as letters; the last group is filled up. -/
def packed : Bytes → Bytes
  | a :: b :: c :: r =>
    let n := (a.toNat * 256 + b.toNat) * 256 + c.toNat
    [n / 262144, n / 4096, n / 64, n].map packedLetter ++ packed r
  | [a, b] =>
    let n := (a.toNat * 256 + b.toNat) * 4
    [n / 4096, n / 64, n].map packedLetter ++ [ascii '=']
  | [a] =>
    let n := a.toNat * 16
    [n / 64, n].map packedLetter ++ [ascii '=', ascii '=']
  | [] => []

/-- The value of a letter. -/
def letterValue? (b : UInt8) : Option Nat := packingLetters.findIdx? (· = b)

/-- The bytes of a number with so many letters. -/
def groupBytes (values : List Nat) : Bytes :=
  let n := (values ++ List.replicate (4 - values.length) 0).foldl (fun n v => n * 64 + v) 0
  ([n / 65536, n / 256, n].map UInt8.ofNat).take (values.length - 1)

/-- The bytes of letters, and whether all of them could be read. -/
def unpacked : (fuel : Nat) → Bytes → Bytes × Bool
  | 0, _ => ([], true)
  | _, [] => ([], true)
  | fuel + 1, b =>
    let group := b.take 4
    let letters := group.takeWhile fun x => (letterValue? x).isSome
    let values := letters.filterMap letterValue?
    let filling := group.drop letters.length
    let isFull := group.length = 4 && filling.all (· = ascii '=') && 2 ≤ letters.length
    let own := groupBytes values
    if isFull then
      let (more, isGood) := unpacked fuel (b.drop 4)
      (own ++ more, isGood)
    else (own, false)

/-- Letters in rows of a width; a width of zero makes one row without an end. -/
def rowsOfLetters (width : Nat) : (fuel : Nat) → Bytes → Bytes
  | 0, _ => []
  | _, [] => []
  | fuel + 1, b =>
    if width = 0 then b
    else b.take width ++ .ofText "\n" ++ rowsOfLetters width fuel (b.drop width)

/-- Writes bytes as letters, or reads them. -/
def pack : Given → Effect :=
  withOptions ⟨"di", "w", "", [("decode", 'd'), ("ignore-garbage", 'i'), ("wrap", 'w')]⟩ 1
    fun g o words =>
  let width := ((o.values 'w').getLast?).getD (.ofText "76")
  match words, natural? width with
  | _ :: extra :: _, _ => g.misused 1 (.ofText "extra operand " ++ inQuotes extra)
  | _, none => g.refused 1 (.ofText "invalid wrap size: " ++ inQuotes width)
  | words, some width =>
    let word := words.headD inputWord
    match readWord g "" g.files word with
    | .error complaint => g.done 1 [] complaint
    | .ok b =>
      let stdin := g.leftBy [word]
      let e :=
        if o.has 'd' then
          let isKept (x : UInt8) : Bool :=
            x != 0x0A && (!o.has 'i' || x = ascii '=' || (letterValue? x).isSome)
          let (out, isGood) := unpacked (b.length + 1) (b.filter isKept)
          if isGood then g.done 0 out []
          else g.done 1 out (complaintOf g.called (.ofText "invalid input"))
        else g.done 0 (rowsOfLetters width (2 * b.length + 4) (packed b)) []
      { e with stdin }

end BuildDispatch.Host.Programs
