import Uptime.Unicode.Ranges

/-!
# Directional classes

Whether a code point is written from left to right, from right to left, or as its neighbours are.
-/

namespace Uptime.Unicode

/-- The runs of code points of one directional class, from zero on. -/
def directionRuns : List String :=
  ["9.BN 1.S 1.B 1.S 1.WS 1.B e.BN 3.B 1.S 1.WS 2.ON 3.ET 5.ON 1.ES 1.CS 1.ES 2.CS a.EN 1.CS 6.ON",
   "1a.L 6.ON 1a.L 4.ON 6.BN 1.B 1a.BN 1.CS 1.ON 4.ET 4.ON 1.L 2.ON 1.BN 2.ON 2.ET 2.EN 1.ON 1.L",
   "3.ON 1.EN 1.L 5.ON 17.L 1.ON 1f.L 1.ON 1c1.L 2.ON 7.L e.ON 2.L e.ON 5.L 9.ON 1.L 11.ON 70.NSM",
   "4.L 2.ON 8.L 1.ON 5.L 2.ON 1.L 1.ON 6e.L 1.ON 8c.L 7.NSM 100.L 1.ON 2.L 2.ON 1.ET 1.R 2d.NSM",
   "1.R 1.NSM 1.R 2.NSM 1.R 2.NSM 1.R 1.NSM 38.R 6.AN 2.ON 1.AL 2.ET 1.AL 1.CS 1.AL 2.ON b.NSM",
   "30.AL 15.NSM a.AN 1.ET 2.AN 3.AL 1.NSM 65.AL 7.NSM 1.AN 1.ON 6.NSM 2.AL 2.NSM 1.ON 4.NSM 2.AL",
   "a.EN 17.AL 1.NSM 1e.AL 1b.NSM 5b.AL b.NSM f.AL 2b.R 9.NSM 2.R 4.ON 3.R 1.NSM 18.R 4.NSM 1.R",
   "9.NSM 1.R 3.NSM 1.R 5.NSM 2b.R 3.NSM 4.R 30.AL 2.AN 6.AL 8.NSM 2a.AL 18.NSM 1.AN 20.NSM 37.L",
   "1.NSM 1.L 1.NSM 4.L 8.NSM 4.L 1.NSM 3.L 7.NSM a.L 2.NSM 1d.L 1.NSM 3a.L 1.NSM 4.L 4.NSM 8.L",
   "1.NSM 14.L 2.NSM e.L 2.ET 7.L 1.ET 2.L 1.NSM 2.L 2.NSM 39.L 1.NSM 4.L 2.NSM 4.L 2.NSM 2.L",
   "3.NSM 3.L 1.NSM 1e.L 2.NSM 3.L 1.NSM b.L 2.NSM 39.L 1.NSM 4.L 5.NSM 1.L 2.NSM 4.L 1.NSM 14.L",
   "2.NSM d.L 1.ET 8.L 6.NSM 1.L 1.NSM 3a.L 1.NSM 2.L 1.NSM 1.L 4.NSM 8.L 1.NSM 7.L 2.NSM b.L",
   "2.NSM 1e.L 1.NSM 3d.L 1.NSM c.L 1.NSM 25.L 6.ON 1.ET 1.ON 5.L 1.NSM 3.L 1.NSM 37.L 1.NSM 1.L",
   "3.NSM 5.L 3.NSM 1.L 4.NSM 7.L 2.NSM b.L 2.NSM 14.L 7.ON 2.L 1.NSM 3a.L 1.NSM f.L 2.NSM 14.L",
   "2.NSM 1c.L 2.NSM 39.L 2.NSM 4.L 4.NSM 8.L 1.NSM 14.L 2.NSM 1d.L 1.NSM 48.L 1.NSM 7.L 3.NSM 1.L",
   "1.NSM 5a.L 1.NSM 2.L 7.NSM 4.L 1.ET 7.L 8.NSM 62.L 1.NSM 2.L 9.NSM b.L 7.NSM 49.L 2.NSM 1b.L",
   "1.NSM 1.L 1.NSM 1.L 1.NSM 4.ON 33.L e.NSM 1.L 5.NSM 1.L 2.NSM 5.L b.NSM 1.L 24.NSM 9.L 1.NSM",
   "66.L 4.NSM 1.L 6.NSM 1.L 2.NSM 2.L 2.NSM 19.L 2.NSM 4.L 3.NSM 10.L 4.NSM d.L 1.NSM 2.L 2.NSM",
   "6.L 1.NSM f.L 1.NSM 2bf.L 3.NSM 30.L a.ON 66.L 1.ON 27f.L 1.WS 1a.L 2.ON 75.L 3.NSM 1d.L 2.NSM",
   "1e.L 2.NSM 1e.L 2.NSM 40.L 2.NSM 1.L 7.NSM 8.L 1.NSM 2.L b.NSM 7.L 1.ET 1.L 1.NSM 12.L a.ON",
   "6.L b.ON 3.NSM 1.BN 1.NSM 75.L 2.NSM 22.L 1.NSM 76.L 3.NSM 4.L 2.NSM 9.L 1.NSM 6.L 3.NSM 4.L",
   "1.ON 3.L 2.ON 98.L 22.ON 17.L 2.NSM 2.L 1.NSM 3a.L 1.NSM 1.L 7.NSM 1.L 1.NSM 1.L 1.NSM 2.L",
   "8.NSM 6.L a.NSM 2.L 1.NSM 30.L 1f.NSM 31.L 4.NSM 30.L 1.NSM 1.L 5.NSM 1.L 1.NSM 5.L 1.NSM 28.L",
   "9.NSM c.L 2.NSM 20.L 4.NSM 2.L 2.NSM 1.L 3.NSM 38.L 1.NSM 1.L 2.NSM 3.L 1.NSM 1.L 3.NSM 3a.L",
   "8.NSM 2.L 2.NSM 98.L 3.NSM 1.L d.NSM 1.L 7.NSM 4.L 1.NSM 6.L 1.NSM 3.L 2.NSM c6.L 40.NSM 1bd.L",
   "1.ON 1.L 3.ON b.L 3.ON d.L 3.ON d.L 3.ON d.L 2.ON 1.L b.WS 3.BN 1.L 1.R 18.ON 1.WS 1.B 1.LRE",
   "1.RLE 1.PDF 1.LRO 1.RLO 1.CS 5.ET f.ON 1.CS 1a.ON 1.WS 6.BN 1.LRI 1.RLI 1.FSI 1.PDI 6.BN 1.EN",
   "3.L 6.EN 2.ES 3.ON 1.L a.EN 2.ES 3.ON 11.L 30.ET 21.NSM f.L 2.ON 1.L 4.ON 1.L 2.ON a.L 1.ON",
   "1.L 3.ON 5.L 6.ON 1.L 1.ON 1.L 1.ON 1.L 1.ON 4.L 1.ET b.L 2.ON 4.L 5.ON 5.L 4.ON 2.L 10.ON",
   "29.L 3.ON 4.L 82.ON 1.ES 1.ET 122.ON 45.L 1a.ON 1.L 91.ON 19.L b.ON 15.L 28.ON 14.EN 4e.L",
   "1c2.ON 1.L 153.ON 100.L 274.ON 2.L 20.ON 1.L 69.ON e5.L 6.ON 4.L 3.NSM 7.L 7.ON 7f.L 1.NSM",
   "60.L 20.NSM 5e.ON 22.L 1a.ON 1.L 59.ON c.L d6.ON 1a.L c.ON 4.L 1.WS 4.ON 3.L 19.ON 9.L 4.NSM",
   "2.L 1.ON 5.L 2.ON 5.L 3.ON 59.L 2.NSM 2.ON 3.L 1.ON 5a.L 1.ON c4.L 24.ON 39.L 2.ON 31.L 10.ON",
   "1c.L 3.ON 32.L f.ON c.L 4.ON a7.L 4.ON 63.L 2.ON 1f.L 1.ON 19c0.L 40.ON 5690.L 37.ON 146.L",
   "3.ON 5f.L 4.NSM 1.ON a.NSM 2.ON 1e.L 2.NSM 50.L 2.NSM e.L 22.ON 66.L 1.ON 79.L 1.NSM 3.L 1.NSM",
   "4.L 1.NSM 19.L 2.NSM 1.L 4.ON 1.NSM b.L 2.ET 3a.L 4.ON 4c.L 2.NSM 1a.L 12.NSM d.L 1.NSM 26.L",
   "8.NSM 19.L b.NSM 2e.L 3.NSM 30.L 1.NSM 2.L 4.NSM 2.L 2.NSM 27.L 1.NSM 43.L 6.NSM 2.L 2.NSM 2.L",
   "2.NSM c.L 1.NSM 8.L 1.NSM 2f.L 1.NSM 33.L 1.NSM 1.L 3.NSM 2.L 2.NSM 5.L 2.NSM 1.L 1.NSM 2a.L",
   "2.NSM 8.L 1.NSM 73.L 2.ON 79.L 1.NSM 2.L 1.NSM 4.L 1.NSM 4f2f.L 1.R 1.NSM a.R 1.ES 26.R 1ee.AL",
   "12.ON 7f.AL 1.ON 20.BN d.AL 3.ON 10.NSM a.ON 6.L 10.NSM 20.ON 1.CS 1.ON 1.CS 1.L 1.ON 1.CS",
   "9.ON 1.ET 2.ON 2.ES 3.ON 1.L 1.ON 2.ET 1.ON 4.L 8f.AL 1.BN 1.L 2.ON 3.ET 5.ON 1.ES 1.CS 1.ES",
   "2.CS a.EN 1.CS 6.ON 1a.L 6.ON 1a.L b.ON 7a.L 2.ET 3.ON 2.ET 1.L 7.ON 1.L 9.BN 5.ON 2.BN 101.L",
   "1.ON 3e.L 4d.ON 3.L d.ON 3.L 1.ON 5c.L 1.NSM e2.L 1.NSM 1b.EN 7a.L 5.NSM 485.L 11f.R 1.ON e1.R",
   "3.NSM 1.R 2.NSM 5.R 4.NSM 28.R 3.NSM 4.R 1.NSM a5.R 2.NSM 52.R 7.ON 1c0.R 24.AL 4.NSM 8.AL",
   "a.AN 6.AL 120.R 1f.AN 2c.R 2.NSM 13.R 3d.AL 3.NSM 30.R 16.AL b.NSM 1f.AL 12.R 4.NSM 7a.R 1.L",
   "1.NSM 36.L f.NSM b.L 14.ON a.L 1.NSM 2.L 2.NSM a.L 3.NSM 31.L 4.NSM 2.L 2.NSM 7.L 1.NSM 3d.L",
   "3.NSM 24.L 5.NSM 1.L 8.NSM 3e.L 1.NSM c.L 2.NSM 34.L 9.NSM a.L 4.NSM 2.L 1.NSM 5f.L 3.NSM 2.L",
   "1.NSM 1.L 2.NSM 6.L 1.NSM 2.L 1.NSM 9d.L 1.NSM 3.L 8.NSM 15.L 2.NSM 39.L 2.NSM 3.L 1.NSM 25.L",
   "7.NSM 3.L 5.NSM c3.L 8.NSM 2.L 3.NSM 1.L 1.NSM 17.L 1.NSM 54.L 6.NSM 1.L 1.NSM 4.L 2.NSM 1.L",
   "2.NSM ee.L 4.NSM 6.L 2.NSM 1.L 2.NSM 1b.L 2.NSM 55.L 8.NSM 2.L 1.NSM 1.L 2.NSM 1f.L d.ON 3e.L",
   "1.NSM 1.L 1.NSM 2.L 6.NSM 1.L 1.NSM 65.L 3.NSM 2.L 4.NSM 1.L 5.NSM 103.L 9.NSM 1.L 2.NSM 100.L",
   "2.NSM 1.L 1.NSM 4.L 1.NSM 90.L 4.NSM 2.L 2.NSM 4.L 1.NSM 20.L 6.NSM 2.L 2.NSM 28.L 6.NSM 2.L",
   "4.NSM 8.L 1.NSM 9.L 6.NSM 2.L 3.NSM 2e.L d.NSM 1.L 2.NSM 196.L 7.NSM 1.L 6.NSM 54.L 16.NSM 2.L",
   "7.NSM 1.L 2.NSM 1.L 2.NSM 7a.L 6.NSM 3.L 1.NSM 1.L 2.NSM 1.L 7.NSM 1.L 1.NSM 48.L 2.NSM 3.L",
   "1.NSM 1.L 1.NSM 15b.L 2.NSM b.L 2.NSM 34.L 5.NSM 5.L 1.NSM 1.L 1.NSM 92.L 8.ON 4.ET 11.ON",
   "144e.L 1.NSM 6.L f.NSM 369a.L 5.NSM 3b.L 7.NSM 418.L 1.NSM 3f.L 4.NSM 4f.L 1.ON 1.L 1.NSM",
   "4cb8.L 2.NSM 1.L 4.BN 125c.L 2e.NSM 2.L 17.NSM 220.L 3.NSM 9.L 8.BN 8.NSM 2.L 7.NSM 1e.L 4.NSM",
   "3b.L 2.ON 15.L 42.ON 3.NSM 1.ON ba.L 57.ON 384.L 1.ON 39.L 1.ON 39.L 1.ON 39.L 1.ON 39.L 1.ON",
   "a.L 32.EN 200.L 37.NSM 4.L 32.NSM 8.L 1.NSM e.L 1.NSM 16.L 5.NSM 1.L f.NSM 550.L 7.NSM 1.L",
   "11.NSM 2.L 7.NSM 1.L 2.NSM 1.L 5.NSM 64.L 1.NSM a0.L 7.NSM 177.L 1.NSM 3d.L 4.NSM f.L 1.ET",
   "1ec.L 4.NSM 310.L d0.R 7.NSM 6d.R 7.NSM 325.R 50.AL 40.R 50.AL b0.R f0.AL 2.ON e.AL 100.R",
   "2c.ON 4.L 64.ON c.L f.ON 2.L f.ON 1.L f.ON 1.L 25.ON a.L b.EN 5.ON 1f.L 1.ON 3a.L 6.ON 3d.L",
   "1.ON b2.L 6.ON 9a.L 3d8.ON 4.L 11.ON 3.L d.ON 3.L 77.ON 4.L 5f.ON 6.L c.ON 4.L 1.ON f.L c.ON",
   "4.L 38.ON 8.L a.ON 6.L 28.ON 8.L 1e.ON 2.L 2.ON 4e.L 154.ON c.L e.ON 2.L d.ON 3.L 9.ON 7.L",
   "2e.ON 1.L 7.ON 8.L e.ON 4.L 9.ON 7.L 9.ON 7.L 93.ON 1.L 37.ON 25.L a.EN 404.L 2.BN fffe.L 2.BN",
   "fffe.L 2.BN fffe.L 2.BN fffe.L 2.BN fffe.L 2.BN fffe.L 2.BN fffe.L 2.BN fffe.L 2.BN fffe.L",
   "2.BN fffe.L 2.BN fffe.L 2.BN fffe.L 102.BN f0.NSM e10.BN effe.L 2.BN fffe.L 2.BN fffe.L 2.BN",
   "0.L"]

/-- The directional class of a code point. -/
def direction (c : Nat) : String := runLabel c directionRuns

end Uptime.Unicode
