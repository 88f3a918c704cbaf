import Uptime.Unicode.Ranges

/-!
# Joining types

Whether a letter joins to the ones before and after it: D to both, R and L to one, C causes joining,
T is transparent, U does not join.
-/

namespace Uptime.Unicode

/-- The runs of code points of one joining type, from zero on. -/
def joiningRuns : List String :=
  ["ad.U 1.T 252.U 70.T 113.U 7.T 107.U 2d.T 1.U 1.T 1.U 2.T 1.U 2.T 1.U 1.T 48.U b.T 1.U 1.T 3.U",
   "1.D 1.U 4.R 1.D 1.R 1.D 1.R 5.D 4.R d.D 1.C 7.D 1.R 2.D 15.T e.U 2.D 1.T 3.R 1.U 3.R 10.D 12.R",
   "26.D 1.R 2.D 9.R 1.D 1.R 1.D 1.R 2.D 2.R 1.U 1.R 7.T 2.U 6.T 2.U 2.T 1.U 4.T 2.R a.U 3.D 2.U",
   "1.D f.U 1.T 1.R 1.T 3.D 5.R 4.D 1.R 9.D 1.R 1.D 1.R 1.D 1.R 2.D 1.R 1b.T 2.U 1.R b.D 3.R f.D",
   "2.R 4.D 1.R 1.D 2.R 3.D 2.R 6.D 26.U b.T 19.U 21.D 9.T 6.U 1.C 2.U 1.T 18.U 4.T 1.U 9.T 1.U",
   "3.T 1.U 5.T 12.U 1.R 5.D 2.R 1.D 1.R a.D 1.R 1.D 3.R 3.T 4.U 1.D 1.U 4.D 1.U 1.R 1.D 2.R 5.U",
   "13.R 3.C 1.D 2.U 5.D 1.R 9.U 8.T a.D 3.R 1.U 1.R 2.D 2.R 6.D 1.R f.D 1.U 18.T 1.U 20.T 37.U",
   "1.T 1.U 1.T 4.U 8.T 4.U 1.T 3.U 7.T a.U 2.T 1d.U 1.T 3a.U 1.T 4.U 4.T 8.U 1.T 14.U 2.T 1a.U",
   "1.T 2.U 2.T 39.U 1.T 4.U 2.T 4.U 2.T 2.U 3.T 3.U 1.T 1e.U 2.T 3.U 1.T b.U 2.T 39.U 1.T 4.U 5.T",
   "1.U 2.T 4.U 1.T 14.U 2.T 16.U 6.T 1.U 1.T 3a.U 1.T 2.U 1.T 1.U 4.T 8.U 1.T 7.U 2.T b.U 2.T",
   "1e.U 1.T 3d.U 1.T c.U 1.T 32.U 1.T 3.U 1.T 37.U 1.T 1.U 3.T 5.U 3.T 1.U 4.T 7.U 2.T b.U 2.T",
   "1d.U 1.T 3a.U 1.T 2.U 1.T 6.U 1.T 5.U 2.T 14.U 2.T 1c.U 2.T 39.U 2.T 4.U 4.T 8.U 1.T 14.U 2.T",
   "1d.U 1.T 48.U 1.T 7.U 3.T 1.U 1.T 5a.U 1.T 2.U 7.T c.U 8.T 62.U 1.T 2.U 9.T b.U 7.T 49.U 2.T",
   "1b.U 1.T 1.U 1.T 1.U 1.T 37.U e.T 1.U 5.T 1.U 2.T 5.U b.T 1.U 24.T 9.U 1.T 66.U 4.T 1.U 6.T",
   "1.U 2.T 2.U 2.T 19.U 2.T 4.U 3.T 10.U 4.T d.U 1.T 2.U 2.T 6.U 1.T f.U 1.T 2bf.U 3.T 3b2.U 3.T",
   "1d.U 2.T 1e.U 2.T 1e.U 2.T 40.U 2.T 1.U 7.T 8.U 1.T 2.U b.T 9.U 1.T 29.U 1.D 2.U 1.C 3.T 1.U",
   "1.T 10.U 59.D c.U 2.T 22.D 1.T 1.D 75.U 3.T 4.U 2.T 9.U 1.T 6.U 3.T db.U 2.T 2.U 1.T 3a.U 1.T",
   "1.U 7.T 1.U 1.T 1.U 1.T 2.U 8.T 6.U a.T 2.U 1.T 30.U 1f.T 31.U 4.T 30.U 1.T 1.U 5.T 1.U 1.T",
   "5.U 1.T 28.U 9.T c.U 2.T 20.U 4.T 2.U 2.T 1.U 3.T 38.U 1.T 1.U 2.T 3.U 1.T 1.U 3.T 3a.U 8.T",
   "2.U 2.T 98.U 3.T 1.U d.T 1.U 7.T 4.U 1.T 6.U 1.T 3.U 2.T c6.U 40.T 20b.U 1.T 1.U 1.C 2.T 1a.U",
   "5.T 31.U 5.T 5.U 6.T 60.U 21.T bfe.U 3.T 8d.U 1.T 60.U 20.T 22a.U 4.T 6b.U 2.T 75d4.U 4.T 1.U",
   "a.T 20.U 2.T 50.U 2.T 110.U 1.T 3.U 1.T 4.U 1.T 19.U 2.T 5.U 1.T 13.U 32.D 1.L 51.U 2.T 1a.U",
   "12.T d.U 1.T 26.U 8.T 19.U b.T 2e.U 3.T 30.U 1.T 2.U 4.T 2.U 2.T 27.U 1.T 43.U 6.T 2.U 2.T 2.U",
   "2.T c.U 1.T 8.U 1.T 2f.U 1.T 33.U 1.T 1.U 3.T 2.U 2.T 5.U 2.T 1.U 1.T 2a.U 2.T 8.U 1.T ee.U",
   "1.T 2.U 1.T 4.U 1.T 4f30.U 1.T 2e1.U 10.T 10.U 10.T cf.U 1.T f9.U 3.T 201.U 1.T e2.U 1.T 95.U",
   "5.T 686.U 3.T 1.U 2.T 5.U 4.T 28.U 3.T 4.U 1.T 80.U 5.D 1.R 1.U 1.R 1.U 2.R 2.U 1.L 5.R 4.D",
   "1.L 5.D 1.R 3.D 1.R 2.U 1.R 2.T 4.U 4.D 1.R 90.U 1.D 1.R 1.D 3.R 3.D 1.R 2.D 1.R 1.D 2.R 1.D",
   "1.R 17.U 4.R 2.D 151.U 1.L 21.D 1.R 1.D 4.T 183.U 2.T 50.U 3.T 30.U 3.D 1.R 11.D 1.U b.T 3.D",
   "1.R 1b.U 4.D 2.R c.D 4.T 2a.U 1.D 1.U 2.D 3.R 1.U 1.D 2.R 2.D 1.R 2.D 1.U 1.D 2.R 1.D 4.U 1.R",
   "1.D 1.L 35.U 1.T 36.U f.T 29.U 1.T 2.U 2.T a.U 3.T 31.U 4.T 2.U 2.T 7.U 1.T 3d.U 3.T 24.U 5.T",
   "1.U 8.T 3e.U 1.T c.U 2.T 34.U 9.T a.U 4.T 2.U 1.T 5f.U 3.T 2.U 1.T 1.U 2.T 6.U 1.T 2.U 1.T",
   "9d.U 1.T 3.U 8.T 15.U 2.T 39.U 2.T 3.U 1.T 25.U 7.T 3.U 5.T c3.U 8.T 2.U 3.T 1.U 1.T 17.U 1.T",
   "54.U 6.T 1.U 1.T 4.U 2.T 1.U 2.T ee.U 4.T 6.U 2.T 1.U 2.T 1b.U 2.T 55.U 8.T 2.U 1.T 1.U 2.T",
   "6a.U 1.T 1.U 1.T 2.U 6.T 1.U 1.T 65.U 3.T 2.U 4.T 1.U 5.T 103.U 9.T 1.U 2.T 100.U 2.T 1.U 1.T",
   "4.U 1.T 90.U 4.T 2.U 2.T 4.U 1.T 20.U a.T 28.U 6.T 2.U 4.T 8.U 1.T 9.U 6.T 2.U 3.T 2e.U d.T",
   "1.U 2.T 196.U 7.T 1.U 6.T 1.U 1.T 52.U 16.T 2.U 7.T 1.U 2.T 1.U 2.T 7a.U 6.T 3.U 1.T 1.U 2.T",
   "1.U 7.T 1.U 1.T 48.U 2.T 3.U 1.T 1.U 1.T 15b.U 2.T b.U 2.T 34.U 5.T 5.U 1.T 1.U 1.T 14ed.U",
   "11.T 6.U f.T 369a.U 5.T 3b.U 7.T 418.U 1.T 3f.U 4.T 51.U 1.T 4cb8.U 2.T 1.U 4.T 125c.U 2e.T",
   "2.U 17.T 220.U 3.T 9.U 10.T 2.U 7.T 1e.U 4.T 94.U 3.T 7bb.U 37.T 4.U 32.T 8.U 1.T e.U 1.T 16.U",
   "5.T 1.U f.T 550.U 7.T 1.U 11.T 2.U 7.T 1.U 2.T 1.U 5.T 64.U 1.T a0.U 7.T 177.U 1.T 3d.U 4.T",
   "1fc.U 4.T 3e0.U 7.T 29.U 44.D 8.T c16b5.U 1.T 1e.U 60.T 80.U f0.T 2fe10.U"]

/-- How a code point joins to its neighbours. -/
def joining (c : Nat) : String := runLabel c joiningRuns

end Uptime.Unicode
