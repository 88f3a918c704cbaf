import Uptime.Unicode.Map

/-!
# Case folding

Code points that differ in case only fold to the same one. Only foldings to a single code point
count.
-/

namespace Uptime.Unicode

/-- The code points that fold to another one. -/
def foldTable : List String :=
  ["41*1a>61 74>3bc b*17>e0 18*7>f8 28/18>101 32/3>133 7/8>13a 11/17>14b 2e>ff 1/3>17a 6>73 2>253",
   "1/2>183 4>254 1>188 2*2>256 2>18c 3>1dd 1>259 1>25b 1>192 2>260 1>263 2>269 1>268 1>199 4>26f",
   "1>272 2>275 1/3>1a1 6>280 1>1a8 2>283 3>1ad 2>288 1>1b0 2*2>28a 2/2>1b4 4>292 1>1b9 4>1bd",
   "8>1c6 1>1c6 2>1c9 1>1c9 2>1cc 1/9>1cc 13/9>1df 13>1f3 1/2>1f3 4>195 1>1bf 1/14>1f9 28>19e",
   "2/9>223 18>2c65 1>23c 2>19a 1>2c66 3>242 2>180 1>289 1>28c 1/5>247 ff>3b9 2b/2>371 6>377 9>3f3",
   "7>3ac 2*3>3ad 4>3cc 2*2>3cd 3*11>3b1 12*9>3c3 1f>3c3 d>3d7 1>3b2 1>3b8 4>3c6 1>3c0 2/c>3d9",
   "18>3ba 1>3c1 3>3b8 1>3b5 2>3f8 2>3f2 1>3fb 3*3>37b 3*10>450 10*20>430 50/11>461 2a/1b>48b",
   "36>4cf 1/7>4c2 f/30>4d1 61*26>561 b6f*26>2d00 27>2d27 6>2d2d 32b*6>13f0 888>432 1>434 1>43e",
   "1*2>441 2>442 1>44a 1>463 1>a64b 8*2b>10d0 2d*3>10fd 143/4b>1e01 9b>1e61 3>df 2/30>1ea1",
   "68*8>1f00 10*6>1f10 10*8>1f20 10*8>1f30 10*6>1f40 11/4>1f51 f*8>1f60 20*8>1f80 10*8>1f90",
   "10*8>1fa0 10*2>1fb0 2*2>1f70 2>1fb3 2>3b9 a*4>1f72 4>1fc3 c*2>1fd0 2*2>1f76 e*2>1fe0 2*2>1f7a",
   "2>1fe5 c*2>1f78 2*2>1f7c 2>1ff3 12a>3c9 4>6b 1>e5 7>214e 2e*10>2170 23>2184 333*1a>24d0",
   "74a*30>2c30 60>2c61 2>26b 1>1d7d 1>27d 3/3>2c68 6>251 1>271 1>250 1>252 2>2c73 3>2c76 9*2>23f",
   "2/32>2c81 6b/2>2cec 7>2cf3 794e/17>a641 40/e>a681 a2/7>a723 10/1f>a733 47/2>a77a 4>1d79",
   "1/5>a77f d>a78c 2>265 3/2>a791 6/a>a797 14>266 1>25c 1>261 1>26c 1>26a 2>29e 1>287 1>29d",
   "1>ab53 1/8>a7b5 10>a794 1>282 1>1d8e 1/2>a7c8 9>a7d1 6/2>a7d7 1f>a7f6 37b*50>13a0 53b1*1a>ff41",
   "4df*28>10428 b0*24>104d8 c0*b>10597 c*f>105a3 10*7>105b3 8*2>105bb 6ec*33>10cc0 c20*20>118c0",
   "55a0*20>16e60 7ac0*22>1e922"]

/-- The pairs of a code point and the one that it folds to. -/
def foldPairs : List (Nat × Nat) :=
  (readMap foldTable).filterMap fun p => match p.2 with
    | [t] => some (p.1, t)
    | _ => none

/-- The code points that differ from one of these ranges in case only, the ranges themselves
included. -/
def Ranges.foldCase (rs : Ranges) : Ranges :=
  let pairs := foldPairs
  let up := pairs.filterMap fun p => if rs.has p.1 then some (Range.mk p.2 p.2) else none
  let all := rs.union (Ranges.ofList up)
  let down := pairs.filterMap fun p => if all.has p.2 then some (Range.mk p.1 p.1) else none
  all.union (Ranges.ofList down)

end Uptime.Unicode
