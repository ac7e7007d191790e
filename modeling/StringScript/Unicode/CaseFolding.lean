import StringScript.Unicode.Table

/-!
# Simple case folding

Two characters fold together if they differ in case only. The table lists the classes of characters
that fold together (Unicode 16.0), rising by their first members: the distance to the first member
of the class, the number of further members, and the distance to each of them.
-/

namespace StringScript.Unicode

def foldingTable : List String :=
  ["2ff1dff1dff1dff1dff1dff1dff1dff1dff1dff1dfg1d85;ff1dff1dff1dff1dff1dff1dff1dfg1d8sff1dff1d",
   "ff1dff1dff1dff1dff1d2!gRm1drf1dff1dff1dff1dff1dfg1d82lff1dff1dff1dff1dff1dff1dff1dff1dff1d",
   "ff1dff1dff1dff1dff1dff1dff1dff1dgf1dff1dff1dff1dff1dff1dff1dff7F;1df3[fffgffgffgffgffgffgf",
   "fgffgffgffgffgffgffgffgffgffgffgffgffgffgffgffgffgffjffgffgffhffgffgffgffgffgffgffgffhffgf",
   "fgffgffgffgffgffgffgffgffgffgffgffgffgffgffgffgffgffgffgffgffgffhffgffgffhf6hff6+fffgffgf6",
   "vfffgf6tff6tfffhf2wff6qff6rfffgf6tff6wff3fff6*ff6zfffgf5hff19Lfff6*ff6<ff4gff6>fffgffgffgf",
   "6]fffgf6]hffgf6]fffgf6[ff6[fffgffgf6!fffjffhf1)kgffhgffhgffhffgffgffgffgffgffgffgffhffgffg",
   "ffgffgffgffgffgffgffhgffhffjffgffgffgffgffgffgffgffgffgffgffgffgffgffgffgffgffgffgffgffjff",
   "gffgffgffgffgffgffgffgffnfBKrfffhfBKnffBK;ffBK;fffhf2kff2mfffgffgffgffgffgfBJ;ffBJ?ffBJ:qf",
   "19Bwkf19Brhf19Cmff199nff19Bjjf19BjffBH(ff19BfkfBH%sfBHmkf19Bhkf199q>f198<ff198+5mh2=1d70k1",
   "rffgffjffkf4gff4gff4ggf3=mf1lgf1kff1kff1kgf2dgf1;ff1;ff72hff1dfg1d:ff1dff1dfg1d2dff1dff1df",
   "h1d[1hgg1d1>ff1dgf1dff1dff1dfg1d>fg1d1xgg;fff1dff1dfg1dwff1dff1dfg1d7B%ff1dff1dkf71*;fnpff",
   "gffgffgffgffgffgffgffgffgffgffgffjfmkffhfflf2xff2xff2xff2xff2xff2xff2xff2xff2xff2xff2xff2x",
   "ff2xff2xff2xff2xff1dff1dfg1d62vff1dfg1d62tff1dff1dff1dff1dff1dff1dff1dff1dff1dfg1d62jff1df",
   "f1dfg1d62gfh1d62gfff1dff1dff1dff1dff1dff1dff1dfg1d61?ff1dff1dff1dff1dff1d1zffggf61jgffgffg",
   "ffgffgffgffgffgffgffgffgffgffgffgffgffqffgffgffgffgffgffgffgffgffgffgffgffgffgffgffgffgffg",
   "ffgffgffgffgffgffgffgffgffgffgfwfffgffgffgffgffgffgffhffgffgffgffgffgffgffgffgffgffgffgffg",
   "ffgffgffgffgffgffgffgffgffgffgffgffgffgffgffgffgffgffgffgffgffgffgffgffgffgffgffgffgffgffg",
   "ffgffgffgffgffgffhf1xff1xff1xff1xff1xff1xff1xff1xff1xff1xff1xff1xff1xff1xff1xff1xff1xff1xf",
   "f1xff1xff1xff1xff1xff1xff1xff1xff1xff1xff1xff1xff1xff1xff1xff1xff1xff1xff1xff1x2Vqf73dff73",
   "dff73dff73dff73dff73dff73dff73dff73dff73dff73dff73dff73dff73dff73dff73dff73dff73dff73dff73",
   "dff73dff73dff73dff73dff73dff73dff73dff73dff73dff73dff73dff73dff73dff73dff73dff73dff73dff73",
   "dgf73dlf73dhf2bdff2bdff2bdff2bdff2bdff2bdff2bdff2bdff2bdff2bdff2bdff2bdff2bdff2bdff2bdff2b",
   "dff2bdff2bdff2bdff2bdff2bdff2bdff2bdff2bdff2bdff2bdff2bdff2bdff2bdff2bdff2bdff2bdff2bdff2b",
   "dff2bdff2bdff2bdff2bdff2bdff2bdff2bdff2bdff2bdhf2bdff2bdff2bdPff15bxff15bxff15bxff15bxff15",
   "bxff15bxff15bxff15bxff15bxff15bxff15bxff15bxff15bxff15bxff15bxff15bxff15bxff15bxff15bxff15",
   "bxff15bxff15bxff15bxff15bxff15bxff15bxff15bxff15bxff15bxff15bxff15bxff15bxff15bxff15bxff15",
   "bxff15bxff15bxff15bxff15bxff15bxff15bxff15bxff15bxff15bxff15bxff15bxff15bxff15bxff15bxff15",
   "bxff15bxff15bxff15bxff15bxff15bxff15bxff15bxff15bxff15bxff15bxff15bxff15bxff15bxff15bxff15",
   "bxff15bxff15bxff15bxff15bxff15bxff15bxff15bxff15bxff15bxff15bxff15bxff15bxff15bxff15bxff15",
   "bxffnffnffnffnffnffn24*g12Ggffff7xf12Jjjf3Rlzf12K)3+ffgffgffgffgffgffgffgffgffgffgffgffgff",
   "gffgffgffgffgffgffgffgffgffgffgffgffgffgffgffgffgffgffgffgffgffgffgffgffgffgffgffgffgffgff",
   "gffgffgffgffgffggf1]gffgffgffgffgffgffgffgffgffgffgffgffgffgffgffgffgffgffgffgffgffgffgffg",
   "ffgffgffsffgffgffgffgffgffgffgffgffgffgffgffgffgffgffgffgffgffgffgffgffgffgffgffgffgffgffg",
   "ffgffgffgffgffgffgffgffgffgffgffgffgffgffgffgffgffgffgffgffgffgfnffnffnffnffnffnffnffnpfnf",
   "fnffnffnffnffnrfnffnffnffnffnffnffnffnpfnffnffnffnffnffnffnffnpfnffnffnffnffnffnsfngfngfng",
   "fnpfnffnffnffnffnffnffnffnpf2qff2qff2>ff2>ff2>ff2>ff3jff3jff4dff4dff3xff3xff3:ff3:hfnffnff",
   "nffnffnffnffnffnpfnffnffnffnffnffnffnffnpfnffnffnffnffnffnffnffnpfnffngfpxfptfnffnwfnffnjf",
   "mvfp9;f?1vfxffxffxffxffxffxffxffxffxffxffxffxffxffxffxffx=ffT*f]ff]ff]ff]ff]ff]ff]ff]ff]ff",
   "]ff]ff]ff]ff]ff]ff]ff]ff]ff]ff]ff]ff]ff]ff]ff]ff]1Tzf1xff1xff1xff1xff1xff1xff1xff1xff1xff1",
   "xff1xff1xff1xff1xff1xff1xff1xff1xff1xff1xff1xff1xff1xff1xff1xff1xff1xff1xff1xff1xff1xff1xf",
   "f1xff1xff1xff1xff1xff1xff1xff1xff1xff1xff1xff1xff1xff1xff1xff1x1zffmffgffgffmffhffrffgffgf",
   "fgffgffgffgffgffgffgffgffgffgffgffgffgffgffgffgffgffgffgffgffgffgffgffgffgffgffgffgffgffgf",
   "fgffgffgffgffgffgffgffgffgffgffgffgffgffgffgffgffgffpffgffkffbBvffgffgffgffgffjffgffgffgff",
   "gffgffgffgffgffgffgffgffgffgffgffgffgff=ffgffgffgffgffgffgffgffgffgffgffgffgffgff4nffgffgf",
   "fgffgffgffgffjffgffgffgffgffgffgffgffgffgffgffgffgffgffgffgffgffgffgffgffgffgffgffgffgffgf",
   "fgffgffgffgffgffrffgffhffgffgffgffgffkffkffgffgf1xgffgffgffgffgffgffgffgffgffgffrfZdfffgff",
   "gffgffgffgffgffgffkffgffhffjfflffgffgff!ffNSxff10?f1dff1dff1dff1dff1dff1dff1dff1dff1dff1df",
   "f1dff1dff1dff1dff1dff1dff1dff1dff1dff1dff1dff1dff1dff1dff1dff1d16lf1nff1nff1nff1nff1nff1nf",
   "f1nff1nff1nff1nff1nff1nff1nff1nff1nff1nff1nff1nff1nff1nff1nff1nff1nff1nff1nff1nff1nff1nff1",
   "nff1nff1nff1nff1nff1nff1nff1nff1nff1nff1nff1n4pf1nff1nff1nff1nff1nff1nff1nff1nff1nff1nff1n",
   "ff1nff1nff1nff1nff1nff1nff1nff1nff1nff1nff1nff1nff1nff1nff1nff1nff1nff1nff1nff1nff1nff1nff",
   "1nff1nff1n4%f1mff1mff1mff1mff1mff1mff1mff1mff1mff1mff1mgf1mff1mff1mff1mff1mff1mff1mff1mff1",
   "mff1mff1mff1mff1mff1mff1mgf1mff1mff1mff1mff1mff1mff1mgf1mff1m1Rrf2dff2dff2dff2dff2dff2dff2",
   "dff2dff2dff2dff2dff2dff2dff2dff2dff2dff2dff2dff2dff2dff2dff2dff2dff2dff2dff2dff2dff2dff2df",
   "f2dff2dff2dff2dff2dff2dff2dff2dff2dff2dff2dff2dff2dff2dff2dff2dff2dff2dff2dff2dff2dff2d4:f",
   "1dff1dff1dff1dff1dff1dff1dff1dff1dff1dff1dff1dff1dff1dff1dff1dff1dff1dff1dff1dff1dff1d2T!f",
   "1dff1dff1dff1dff1dff1dff1dff1dff1dff1dff1dff1dff1dff1dff1dff1dff1dff1dff1dff1dff1dff1dff1d",
   "ff1dff1dff1dff1dff1dff1dff1dff1dff1dPDff1dff1dff1dff1dff1dff1dff1dff1dff1dff1dff1dff1dff1d",
   "ff1dff1dff1dff1dff1dff1dff1dff1dff1dff1dff1dff1dff1dff1dff1dff1dff1dff1dff1dbPff1gff1gff1g",
   "ff1gff1gff1gff1gff1gff1gff1gff1gff1gff1gff1gff1gff1gff1gff1gff1gff1gff1gff1gff1gff1gff1gff",
   "1gff1gff1gff1gff1gff1gff1gff1gff1g"]

def runningSums (start : Nat) : List Nat → List Nat
  | [] => []
  | distance :: rest => (start + distance) :: runningSums (start + distance) rest

/-- The classes of a table, from the code point `start` on. The fuel bounds the classes. -/
def readClasses : Nat → Nat → List Nat → List (List Nat)
  | fuel + 1, start, distance :: count :: rest =>
    let first := start + distance
    (first :: runningSums first (rest.take count)) :: readClasses fuel first (rest.drop count)
  | _, _, _ => []

/-- The classes of two or more characters that fold together. -/
def foldingClasses : List (List Nat) :=
  let written := numbers foldingTable
  readClasses written.length 0 written

/-- A set with all the characters that fold together with a member. -/
def closeUnderFolding (s : CharSet) : CharSet :=
  let added := foldingClasses.filter fun members => members.any s.containsPoint
  s.union (.ofRanges (added.flatten.map fun n => (n, n)))

def closeUnderAsciiFolding (s : CharSet) : CharSet :=
  let shifted (lo hi : Nat) (shift : Nat → Nat) : List (Nat × Nat) :=
    (s.inter ⟨[(lo, hi)]⟩).ranges.map fun (a, b) => (shift a, shift b)
  s.union (.ofRanges (shifted 0x41 0x5A (· + 32) ++ shifted 0x61 0x7A (· - 32)))

end StringScript.Unicode
