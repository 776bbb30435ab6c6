import MergeQueue.Text.FoldingRows

namespace MergeQueue.Text.CaseFolding

def fold (c : Char) : Char :=
  let n := c.toNat
  match rows.find? fun (start, count, step, _) =>
    start ≤ n && (n - start) % step = 0 && (n - start) / step < count with
  | some (_, _, _, shift) => Char.ofNat ((n : Int) + shift).toNat
  | none => c

def variants (c : Char) : List Char :=
  let f := fold c
  f :: rows.filterMap fun (start, count, step, shift) =>
    let n := (f.toNat : Int) - shift
    if (start : Int) ≤ n && (n.toNat - start) % step = 0 && (n.toNat - start) / step < count then
      some (Char.ofNat n.toNat)
    else none

end MergeQueue.Text.CaseFolding
