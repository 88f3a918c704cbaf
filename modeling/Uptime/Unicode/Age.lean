import Uptime.Unicode.Ranges

/-!
# Ages

The age of a code point is the version of the standard that assigned it.
-/

namespace Uptime.Unicode

/-- The versions of the standard, in order; a letter stands for each, from A on. -/
def ages : List String :=
  ["1.1", "2.0", "2.1", "3.0", "3.1", "3.2", "4.0", "4.1", "5.0",
   "5.1", "5.2", "6.0", "6.1", "6.2", "6.3", "7.0", "8.0", "9.0",
   "10.0", "11.0", "12.0", "12.1", "13.0", "14.0", "15.0"]

/-- The runs of code points that were assigned in one version, by its letter, from zero on; a dash
stands for what is not assigned. -/
def ageRuns : List String :=
  ["1f6.A 4.D 1e.A 8.D 1.F 1.G 12.D 3.G b.H e.I 59.A 5.D 2.G 2f.A 1.D a.A 5.D 11.G 46.A 9.D 1.F",
   "8.G 5.H 3.G 2.A 1.D d.F 4.J 2.A 2.J 2.- 1.A 3.I 1.A 1.P 4.- 7.A 1.- 1.A 1.- 14.A 1.- 2c.A 1.J",
   "7.A 1.D 2.F 1.A 1.D 1.A 1.D 1.A 1.D 1.A 1.D 12.A 2.E 1.F 5.G 4.H 1.D c.A 1.D 42.A 1.D c.A 1.D",
   "29.A 1.J 2.D 2.F 4.D 35.A 2.F 2.A 2.F 2.A 2.F 1.I 1c.A 2.D 8.A 2.H 2.A 6.I 10.F 4.I 10.J 2.K",
   "2.L 8.P 1.- 26.A 2.- 7.A 1.T 27.A 1.T 1.A 1.D 2.- 2.P 1.M 1.- 11.B 1.H d.B a.A 1.I 9.A 1.B 3.H",
   "8.- 1b.A 4.- 1.T 5.A b.- 4.G 1.M 1.P 5.J 1.H 1.A 9.G 5.J 1.A 1.O 1.X 1.H 1.A 1.L 1a.A 5.J 13.A",
   "3.D 3.G 6.H 1.L e.A 2.F 48.A 2.D 5.A 1.D f.A 1.D 1e.A 2.G a.A 5.D 1.G e.D 1.- 1e.D 3.G 1b.D",
   "2.- 3.G 1e.H 12.J 31.D 1.F e.- 3b.I 2.- 3.T 2e.K 2.- f.K 1.- 1c.L 2.- 1.L 1.- b.S 5.- 1f.X 1.-",
   "2.X 6.- 8.X 1.M 1.P b.M 6.P 2.Q 1.X 8.R a.W b.X 1.T f.R 1.Q 1b.M 1.P 1.K 3.A 1.G 35.A 2.L 12.A",
   "1.K 1.L 5.A 1.K 2.L 19.A 2.J 5.L 1.P 2.K 2.I 1.H 2.I 1.P 3.A 1.- 8.A 2.- 2.A 2.- 16.A 1.- 7.A",
   "1.- 1.A 3.- 4.A 2.- 1.A 1.G 7.A 2.- 2.A 2.- 3.A 1.H 8.- 1.A 4.- 2.A 1.- 5.A 2.- 15.A 1.K 2.S",
   "1.T 2.- 1.G 1.A 1.G 1.- 6.A 4.- 2.A 2.- 16.A 1.- 7.A 1.- 2.A 1.- 2.A 1.- 2.A 2.- 1.A 1.- 5.A",
   "4.- 2.A 2.- 3.A 3.- 1.J 7.- 4.A 1.- 1.A 7.- f.A 1.J 1.T a.- 3.A 1.- 7.A 1.G 1.A 1.- 3.A 1.-",
   "16.A 1.- 7.A 1.- 2.A 1.- 5.A 2.- a.A 1.- 3.A 1.- 3.A 2.- 1.A f.- 1.A 3.G 2.- a.A 1.M 1.G 7.-",
   "1.Q 6.S 1.- 3.A 1.- 8.A 2.- 2.A 2.- 16.A 1.- 7.A 1.- 2.A 1.- 1.G 4.A 2.- 8.A 1.J 2.- 2.A 2.-",
   "3.A 7.- 1.W 2.A 4.- 2.A 1.- 3.A 2.J 2.- b.A 1.G 6.L a.- 2.A 1.- 6.A 3.- 3.A 1.- 4.A 3.- 2.A",
   "1.- 1.A 1.- 2.A 3.- 2.A 3.- 3.A 3.- 8.A 1.H 3.A 4.- 5.A 3.- 3.A 1.- 4.A 2.- 1.J 6.- 1.A e.-",
   "1.H c.A 8.G 5.- 1.P 3.A 1.T 8.A 1.- 3.A 1.- 17.A 1.- a.A 1.P 5.A 2.- 1.X 1.J 7.A 1.- 3.A 1.-",
   "4.A 7.- 2.A 1.- 2.J 1.Q 2.- 1.X 2.- 2.A 2.J 2.- a.A 7.- 1.U 8.J 1.R 1.P 2.A 1.T 8.A 1.- 3.A",
   "1.- 17.A 1.- a.A 1.- 5.A 2.- 2.G 7.A 1.- 3.A 1.- 4.A 7.- 2.A 6.- 1.X 1.A 1.- 2.A 2.I 2.- a.A",
   "1.- 2.I 1.Y c.- 1.S 1.P 2.A 1.W 8.A 1.- 3.A 1.- 17.A 1.L 10.A 1.L 2.S 1.J 6.A 1.J 1.- 3.A 1.-",
   "4.A 1.L 1.R 4.- 3.R 1.A 7.R 1.Q 2.A 2.J 2.- a.A 6.J 3.R 7.J 1.- 1.W 2.D 1.- 12.D 3.- 18.D 1.-",
   "9.D 1.- 1.D 2.- 7.D 3.- 1.D 4.- 6.D 1.- 1.D 1.- 8.D 6.- a.P 2.- 3.D c.- 3a.A 4.- 1d.A 25.- 2.A",
   "1.- 1.A 1.- 1.U 2.A 1.U 1.A 1.- 1.U 1.A 6.U 4.A 1.U 7.A 1.U 3.A 1.- 1.A 1.- 1.A 2.U 2.A 1.U",
   "d.A 1.U 3.A 2.- 5.A 1.- 1.A 1.- 6.A 1.Y 1.- a.A 2.- 2.A 2.M 20.- 48.B 1.- 21.B 1.D 2.J 4.-",
   "1b.B 4.L 6.B 1.D 1.B 1.- 15.B 3.D 7.B 1.D 1.B 3.D 1.- f.D 1.- 1.J 1.D 2.H 3.J 4.K 2.L 25.-",
   "22.D 1.J 5.D 1.J 2.D 1.J 7.D 3.J 4.D 6.J 1a.D 40.J 4.K 2.J 26.A 1.- 1.M 5.- 1.M 2.- 27.A 2.F",
   "2.H 1.A 1.H 3.M 5a.A 5.K 44.A 5.K 52.A 6.K 7.D 1.H 3f.D 1.H 1.D 1.- 4.D 2.- 7.D 1.- 1.D 1.-",
   "4.D 2.- 27.D 1.H 1.D 1.- 4.D 2.- 1f.D 1.H 1.D 1.- 4.D 2.- 7.D 1.- 1.D 1.- 4.D 2.- 7.D 1.H 7.D",
   "1.- 17.D 1.H 1f.D 1.H 1.D 1.- 4.D 2.- 7.D 1.H 27.D 1.H 13.D 2.- 2.L 2.H 1c.D 3.- 1a.H 6.- 55.D",
   "1.Q 2.- 6.Q 2.- 1.K 276.D 9.K 1d.D 3.- 51.D 8.P 7.- d.F 1.X 7.F 1.X 9.- 1.X 17.F 9.- 14.F c.-",
   "d.F 1.- 3.F 1.- 2.F c.- 5d.D 1.G 2.- a.D 6.- a.G 6.- f.D 1.X a.D 6.- 58.D 1.T 7.- 2a.D 1.J 5.-",
   "46.K a.- 1d.G 2.P 1.- c.G 4.- c.G 4.- 1.G 3.- 2a.G 2.- 5.G b.- 2a.H 2.K 4.- 1a.H 6.- a.H 1.K",
   "3.- 2.H 20.G 1c.H 2.- 2.H 3f.K 1.- 1d.K 2.- b.K 6.- a.K 6.- e.K 2.- f.P 2.W e.X 31.- 4c.I 1.X",
   "3.- 2d.I 2.X 1.- 2b.J 3.M c.J 6.M 34.L 8.- 4.L 38.J 3.- f.J 3.- 33.J 9.R 7.- 2b.T 2.- 3.T 8.M",
   "8.- 23.K 4.M 1.S 2.P 1.U 5.- 6c.G 58.H 7.I 1c.J f.P 4.S 1.X 1.R 1.L 1.K 2.I 9b.A 1.B 4.J 5a.A",
   "6.J 16.A 2.- 6.A 2.- 26.A 2.- 6.A 2.- 8.A 1.- 1.A 1.- 1.A 1.- 1.A 1.- 1f.A 2.- 35.A 1.- f.A",
   "1.- e.A 2.- 6.A 1.- 13.A 2.- 3.A 1.- 9.A 1.- 2f.A 1.D 17.A 1.F 6.D 5.F 2.G 2.H 1.F 7.H 5.F 1.J",
   "1.- 4.O 7.A 1.F 2.- 1b.A 1.- 5.H 8.L 3.- b.A 1.B 1.C 3.D 2.F 4.H 3.K 1.L 1.N 3.P 1.Q 1.S 1.X",
   "f.- 12.A 2.D 7.F 1.H 4.I 1.J f.- 39.A 2.D 1.G 1.H f.F 1.H 2.I 1.J 3.K 30.A 1.D 1.I 4.J 1.K 2.Q",
   "4.- 5b.A 9.D c.F f2.A e.F 1.A 1.D 79.A 1.D 1.F 1e.D 34.F 2.G b.H c.I 1.K b.L 7.P 4.R 1.S 25.A",
   "2.D 19.- b.A 15.- 8b.A 14.F 1.G 96.A a.F 50.A 8.D 8.F 14.A 2.G 2.F 1.H 1.D 56.A 2.D c.F 2.H",
   "a.F 8.G b.H 1.J 2.K 2.G 10.H 1.I a.J 3.K 4.J a.K 1.L 13.K 1.L 1.K 4.L 18.K 1.P 4.A 1.L 4.A 2.L",
   "1c.A 1.L 23.A 1.L 1.A 1.L 4.A 3.L 1.A 1.K 7.A 2.L 7.A e.F 1f.A 3.L 18.A 1.L e.A 1.L 7.H 4.I",
   "1.M 1.J 1.M 2.L 1c.F 4.J 10.F 100.D 200.F e.G 6.H 7.I 5.J 4.I 29.J 3.P 5.J 5.K 1a.P 2.- 20.P",
   "1.- 1.W 22.P 3.T c.P 1.U 8.P 1.S 19.T 4.Q f.T 1.U 2f.H 1.X 2f.H 1.X d.I 3.J 1.K 3.J 4.I 6.J",
   "2.K 6b.H 7.K 2.M 5.- 2d.H 1.- 1.M 5.- 1.M 2.- 36.H 2.M 7.- 1.H 1.L e.- 1.L 17.H 9.- 7.H 1.-",
   "7.H 1.- 7.H 1.- 7.H 1.- 7.H 1.- 7.H 1.- 7.H 1.- 7.H 1.- 20.J 18.H 4.J 2.H 13.J 1.K a.M 7.P 2.R",
   "5.S 5.T 1.U 3.W b.X 22.- 1a.D 1.- 59.D c.- d6.D 1a.- c.D 4.- 38.A 3.D 3.F 1.D 1.A 1.- 54.A 2.F",
   "2.- 6.A 2.F 5e.A 1.F 5.- 28.A 1.J 1.S 1.T 1.- 5e.A 1.- 10.A 18.D 3.L 5.W 10.H 14.J c.- 10.F",
   "1d.A 2.G 1.- 24.A c.K 1.G f.F 1c.A 2.G 1.H 32.A f.F c.A 4.G 2f.A 1.V 77.A 4.G 63.A 2.G 1f.A",
   "1.G 19b6.D a.W 40.G 51a6.A 16.H 8.J 8.K 1.M 9.Q 15.S 5.T d.W 3.X 48d.D 3.- 12.D 2.F 10.D 1.F",
   "c.D 1.F 3.D 1.F 1.D 9.- 30.K 12c.J 14.- 20.J 2.L 12.J 8.M 1c.J 6.P 1.Q 1.M 58.K 8.- 17.H 4.I",
   "5.J 2.I 6b.J 2.L 1.Q 2.L 2.M c.P a.L 1.M 3.P 1.R 1.T 2.P 6.Q 2.T 6.U 2.X 5.U 4.W 5.- 2.X 1.-",
   "1.X 1.- 5.X 18.- 3.X 2.W 1.P 2.M 1.L 5.J 2c.H 1.W 3.- a.K 6.- 38.I 8.- 45.J 1.R 8.- c.J 6.-",
   "1c.K 2.Q 2.T 54.J b.- 1.J 1d.K 3.- 4e.K 1.- b.K 4.- 2.K 1f.P 1.- 37.J 9.- e.J 2.- a.J 2.- 4.J",
   "1c.K 4.P 43.K 18.- 5.K 17.M a.- 6.L 2.- 6.L 2.- 6.L 9.- 7.L 1.- 7.L 1.- 30.P 4.Q 2.P 2.U 4.W",
   "4.- 50.Q 2e.K 2.- a.K 6.- 2ba4.B c.- 17.K 4.- 31.K 4.- 800.B 1a2e.A 2.M 3b.F 3.K 2.- 6a.H 26.-",
   "7.A c.- 5.A 5.- 1.D 19.A 1.- 5.A 1.- 1.A 1.- 2.A 1.- 2.A 1.- 6c.A 10.L 1.X 10.- 16d.A 10.X",
   "40.A 2.- 36.A 7.- 1.X 20.E c.A 1.F 1.G 2.X 10.F a.H 6.- 4.A 3.J 7.P 2.Q 15.A 2.F 2.G a.A 1.-",
   "13.A 1.- 4.A 4.- 3.A 1.F 1.A 1.- 87.A 2.- 1.A 1.- 5e.A 2.F 5e.A 3.- 6.A 2.- 6.A 2.- 6.A 2.-",
   "3.A 3.- 7.A 1.- 7.A a.- 3.D 1.C 3.A c.G 1.- 1a.G 1.- 13.G 1.- 2.G 1.- f.G 2.- e.G 22.- 7b.G",
   "5.- 3.G 4.- 2d.G 3.- 9.G 4b.H 2.P 2.R 1.- c.J 1.W 3.- 1.P 2f.- 2e.J 82.- 1d.J 3.- 31.J f.-",
   "1c.P 4.- 1f.E 1.P 4.E 9.- 3.S 1b.E 5.- 2b.P 5.- 1e.G 1.- 1.G 24.H 4.- e.H 2a.- 26.E 2.G 26.E",
   "50.G 2.- a.G 6.- 24.R 4.- 24.R 4.- 28.P 8.- 34.P b.- 1.P b.X 1.- f.X 1.- 7.X 1.- 2.X 1.- b.X",
   "1.- f.X 1.- 7.X 1.- 2.X 43.- 137.P 9.- 16.P a.- 8.P 18.- 6.X 1.- 2a.X 1.- 9.X 45.- 6.G 2.- 1.G",
   "1.- 2c.G 1.- 2.G 3.- 1.G 2.- 1.G 16.K 1.- 9.K 3f.P 8.- 9.P 30.- 13.Q 1.- 2.Q 5.- 5.Q 1a.I 2.K",
   "3.- 1.I 1a.J 5.- 1.J 40.- 38.M 4.- 2.Q 2.M 10.Q 2.- 2e.Q 4.H 1.- 2.H 5.- 8.H 1.- 3.H 1.- 1b.H",
   "2.T 2.- 3.H 4.- 9.H 1.T 7.- 9.H 7.- 20.K 20.P 20.- 27.P 4.- c.P 9.- 36.K 3.- 1d.K 2.- 1b.K 5.-",
   "8.K 12.P 7.- 4.P c.- 7.P 50.- 49.K 37.- 33.Q d.- 33.Q 7.- 6.Q 28.T 8.- a.T 126.- 1f.K 1.- 2a.W",
   "1.- 3.W 2.- 2.W 4b.- 3.Y 28.T 8.- 2a.T 16.- 1a.X 26.- 1c.W 14.- 17.U 9.- 4e.L 4.- 1e.L 6.X 9.-",
   "1.P 42.K 1.X a.- 1.T 2.- 19.M 7.- a.M 6.- 35.M 1.- e.M 3.T 1.W 8.- 27.P 9.- 49.M 4.Q 1.P 2.W",
   "a.M 1.P 5.Q 1.- 14.P b.- 12.P 1.- 2b.P 1.R 3.Y 3e.- 7.Q 1.- 1.Q 1.- 4.Q 1.- f.Q 1.- b.Q 6.-",
   "3b.P 5.- a.P 6.- 1.Q 3.P 1.- 8.P 2.- 2.P 2.- 16.P 1.- 7.P 1.- 2.P 1.- 5.P 1.- 1.T 9.P 2.- 2.P",
   "2.- 3.P 2.- 1.Q 6.- 1.P 5.- 7.P 2.- 7.P 3.- 5.P 8b.- 5a.R 1.W 1.R 1.- 1.R 1.T 1.U 2.W 1e.-",
   "48.P 8.- a.P a6.- 36.P 2.- 12.P 14.Q 22.- 45.P b.- a.P 6.- d.R 13.- 38.M 1.U 1.X 6.- a.M 36.-",
   "1a.Q 1.T 2.- f.Q 4.- 10.Q 7.X b9.- 3c.T 64.- 53.P c.- 1.P 7.W 2.- 1.W 2.- 8.W 1.- 2.W 1.- 1e.W",
   "1.- 2.W 2.- c.W 9.- a.W 46.- 8.U 2.- 2e.U 2.- b.U 1b.- 48.S 8.- 34.S 2.U 17.S 1.T 5.S d.- 10.X",
   "39.P 7.- a.Y f6.- 9.R 1.- 2d.R 1.- e.R a.- 1d.R 3.- 20.R 2.- 16.R 1.- e.R 49.- 7.S 1.- 2.S 1.-",
   "2c.S 3.- 1.S 1.- 2.S 1.- 9.S 8.- a.S 6.- 6.T 1.- 2.T 1.- 25.T 1.- 2.T 1.- 6.T 7.- a.T 136.-",
   "19.T 7.- 11.Y 1.- 29.Y 3.- 1c.Y 56.- 1.W f.- 32.U d.- 1.U 36f.I 2a.P 1.Q 66.- 63.I c.P 1.- 4.I",
   "1.P b.- c4.Q a4c.- 63.X d.- 42f.K 1.Y 9.U 1d.Y faa.- 247.Q 21b9.- 239.L 7.- 1f.P 1.- a.P 4.-",
   "2.P 4f.X 1.- a.X 6.- 1e.P 2.- 6.P a.- 46.P a.- a.P 1.- 7.P 1.- 15.P 5.- 13.P 2b0.- 5b.T 65.-",
   "45.M 6.U 4.- 1.U 2f.M 9.U 7.- 11.M 40.- 1.R 1.S 2.U 1.W b.- 2.W e.- 17ed.R 5.T 6.U 8.- 2f3.R",
   "1e3.W 2a.- 9.W 22e7.- 4.X 1.- 7.X 1.- 2.X 1.- 2.L 11d.S 4.X f.- 1.Y 1d.- 3.U 2.- 1.Y e.- 4.U",
   "8.- 18c.S 904.- 6b.P 5.- d.P 3.- 9.P 7.- a.P 2.- 8.P 125c.- 2e.X 2.- 17.X 9.- 74.X 3c.- f6.E",
   "a.- 27.E 2.- 1.J b4.E b.Q 2.X 15.- 46.H 7a.- 14.Y c.- 14.T c.- 57.G 9.- 12.I 7.T 87.- 55.E 1.-",
   "47.E 1.- 2.E 2.- 1.E 2.- 2.E 2.- 4.E 1.- c.E 1.- 1.E 1.- 4.E 1.G 2.E 1.- 41.E 1.- 4.E 2.- 8.E",
   "1.- 7.E 1.- 1c.E 1.- 4.E 1.- 5.E 1.- 1.E 3.- 7.E 1.- 152.E 2.H 2.- 122.E 2.I 2.- 32.E 28c.Q",
   "f.- 5.Q 1.- f.Q 450.- 1f.X 6.- 6.Y d5.- 7.R 1.- 11.R 2.- 7.R 1.- 2.R 1.- 5.R 5.- 3e.Y 21.- 1.Y",
   "70.- 2d.U 3.- e.U 2.- a.U 4.- 2.U 140.- 1f.X 11.- 3a.U 5.- 1.U 1d0.- 2a.Y 2e6.- 7.X 1.- 4.X",
   "1.- 2.X 1.- f.X 1.- c5.P 2.- 10.P 29.- 4b.R 1.U 4.- a.R 4.- 2.R 311.- 44.T 4c.- 3d.U c2.- 4.M",
   "1.- 1b.M 1.- 2.M 1.- 1.M 2.- 1.M 1.- a.M 1.- 4.M 1.- 1.M 1.- 1.M 6.- 1.M 4.- 1.M 1.- 1.M 1.-",
   "1.M 1.- 3.M 1.- 2.M 1.- 1.M 2.- 1.M 1.- 1.M 1.- 1.M 1.- 1.M 1.- 1.M 1.- 2.M 1.- 1.M 2.- 4.M",
   "1.- 7.M 1.- 4.M 1.- 4.M 1.- 1.M 1.- a.M 1.- 11.M 5.- 3.M 1.- 5.M 1.- 11.M 34.- 2.M 10e.- 2c.J",
   "4.- 64.J c.- f.L 2.- e.L 1.P 1.- f.L 1.- f.L 16.P a.- b.K 2.P 3.W 1f.K 1.T 1.L 1.K b.L 1.K 1.L",
   "1.K 2.L 1.K 3.L 1.K 3.L 5.K 8.L 1.K 7.L 1.K a.L 2.M 1.U 3.W 9.L 1.K 1.L 2.K 2.L 1.K a.L 4.K",
   "2.L 1.K a.L 12.R 1.W 38.- 1a.L 1.K 2.L d.- 22.K 9.L 1.R 4.- 9.K 7.- 2.L e.- 6.S 9a.- 21.L c.P",
   "3.Q 6.L 1.P 46.L 1.P 2.Q 14.L c.P 25.L 1.P 5.L 4.P 5.Q c.P 11.L 7.P 8.Q 3f.L 1.P 1.L 1.P b6.L",
   "1.P 4.L 2.P 1.Q 3e.L 2.P 4.M 7.P 5.Q 18.L 12.P 1.R 29.P 1.R 56.P 5.L 1.M 10.L 1.M 3.L 1.M 1.L",
   "1.M 1.L 1.M 1.L 1.M 3.L 1.M 6.L 2.M 4.L 1.M 1.L 2.M 4.L 1.M c.L 2.P 2.Q b.L 30.P 46.L a.P 1.Q",
   "2.R 2.S 1.U 2.W 4.- 1.Y 3.X d.P 3.- 4.P 3.R 2.S 1.T 1.U 2.W 3.- 74.L 3.Y 4.- 5.Y 55.P 4.T 1.Y",
   "6.- c.U 4.- 1.X f.- c.P 4.- 38.P 8.- a.P 6.- 28.P 8.- 1e.P 2.- 2.W 4e.- c.S 1.W 3.U 9.Q 6.R",
   "1.S 8.R 8.S 1.R 2.S c.R 1.U c.R 1.S 3.T f.R d.S 5.T 1.U 1.W 4.T 2.W 1.X 1.T 1.U 4.T 5.Q d.R",
   "6.S b.T 2.W 6.U 3.W 2.U a.T 6.U 1.Q 2.T 8.U 1.W 1.X 3.U 17.S 19.T 54.U c.- e.T 2.- 4.U 1.W 3.Y",
   "3.U 2.X 3.- 3.U 4.W 2.Y 7.- 6.U 13.W 4.X 3.Y 7.W 4.X 3.Y 1.- 1.Y 3.W 3.X 8.- 2.Y 7.W 3.X 2.Y",
   "4.- 8.X 1.Y 7.- 7.X 2.Y 7.- 93.W 1.- 37.W 25.- a.W 404.- 2.B a6d7.E 7.W 2.X 20.- 1035.K 4.X",
   "1.Y 6.- de.L 2.- 1682.Q e.- 1d31.S c1f.- 21e.E 5e0.- 2.B 134b.W 5.- 1060.Y dc4e.- 2.B fffe.-",
   "2.B fffe.- 2.B fffe.- 2.B fffe.- 2.B fffe.- 2.B fffe.- 2.B fffe.- 2.B fffe.- 2.B fffe.- 2.B",
   "fffe.- 2.B 1.- 1.E 1e.- 60.E 80.- f0.G fe0e.- 20002.B 0.-"]

/-- The code points that were assigned up to the version at this place of the list. -/
def ageRanges (place : Nat) : Ranges :=
  runRanges (fun label => match label.toList with
    | [c] => c != '-' && c.toNat - 65 ≤ place
    | _ => false) ageRuns

end Uptime.Unicode
