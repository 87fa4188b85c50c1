import TableMapper.Pattern.CodePoints

/-!
# Ages

The age of a character is the version that assigned it.  `ofAge?` is the set of the characters that
a version has, those of earlier versions included.
-/

namespace TableMapper

namespace Pattern

/-- The ages of the code points from zero on, as slices; a hyphen stands for an unassigned one. -/
def ageSlices : List String :=
  ["1.1:dy 3.0:4 1.1:u 3.0:8 3.2 4.0 3.0:i 4.0:3 4.1:b 5.0:e 1.1:2h 3.0:5 4.0:2 1.1:1b 3.0",
   "1.1:a 3.0:5 4.0:h 1.1:1y 3.0:9 3.2 4.0:8 4.1:5 4.0:3 1.1:2 3.0 3.2:d 5.1:4 1.1:2 5.1:2",
   "-:2 1.1 5.0:3 1.1 7.0 -:4 1.1:7 - 1.1 - 1.1:k - 1.1:18 5.1 1.1:7 3.0 3.2:2 1.1 3.0 1.1",
   "3.0 1.1 3.0 1.1 3.0 1.1:i 3.1:2 3.2 4.0:5 4.1:4 3.0 1.1:c 3.0 1.1:1u 3.0 1.1:c 3.0",
   "1.1:15 5.1 3.0:2 3.2:2 3.0:4 1.1:1h 3.2:2 1.1:2 3.2:2 1.1:2 3.2:2 5.0 1.1:s 3.0:2",
   "1.1:8 4.1:2 1.1:2 5.0:6 3.2:g 5.0:4 5.1:g 5.2:2 6.0:2 7.0:8 - 1.1:12 -:2 1.1:7 11.0",
   "1.1:13 11.0 1.1 3.0 -:2 7.0:2 6.1 - 2.0:h 4.1 2.0:d 1.1:a 5.0 1.1:9 2.0 4.1:3 -:8",
   "1.1:r -:4 11.0 1.1:5 -:b 4.0:4 6.1 7.0 5.1:5 4.1 1.1 4.0:9 5.1:5 1.1 6.3 14.0 4.1 1.1",
   "6.0 1.1:q 5.1:5 1.1:j 3.0:3 4.0:3 4.1:6 6.0 1.1:e 3.2:2 1.1:20 3.0:2 1.1:5 3.0 1.1:f",
   "3.0 1.1:u 4.0:2 1.1:a 3.0:5 4.0 3.0:e - 3.0:u 4.0:3 3.0:r -:2 4.0:3 4.1:u 5.1:i 3.0:1d",
   "3.2 -:e 5.0:1n -:2 11.0:3 5.2:1a -:2 5.2:f - 6.0:s -:2 6.0 - 10.0:b -:5 14.0:v -",
   "14.0:2 -:5 16.0 14.0:8 6.1 7.0 6.1:b 7.0:6 8.0:2 14.0 9.0:8 13.0:a 14.0:b 11.0 9.0:f",
   "8.0 6.1:r 7.0 5.2 1.1:3 4.0 1.1:1h 6.0:2 1.1:i 5.2 6.0 1.1:5 5.2 6.0:2 1.1:p 5.1:2",
   "6.0:5 7.0 5.2:2 5.0:2 4.1 5.0:2 7.0 1.1:3 - 1.1:8 -:2 1.1:2 -:2 1.1:m - 1.1:7 - 1.1",
   "-:3 1.1:4 -:2 1.1 4.0 1.1:7 -:2 1.1:2 -:2 1.1:3 4.1 -:8 1.1 -:4 1.1:2 - 1.1:5 -:2",
   "1.1:l 5.2 10.0:2 11.0 -:2 4.0 1.1 4.0 - 1.1:6 -:4 1.1:2 -:2 1.1:m - 1.1:7 - 1.1:2 -",
   "1.1:2 - 1.1:2 -:2 1.1 - 1.1:5 -:4 1.1:2 -:2 1.1:3 -:3 5.1 -:7 1.1:4 - 1.1 -:7 1.1:f",
   "5.1 11.0 -:a 1.1:3 - 1.1:7 4.0 1.1 - 1.1:3 - 1.1:m - 1.1:7 - 1.1:2 - 1.1:5 -:2 1.1:a -",
   "1.1:3 - 1.1:3 -:2 1.1 -:f 1.1 4.0:3 -:2 1.1:a 6.1 4.0 -:7 8.0 10.0:6 - 1.1:3 - 1.1:8",
   "-:2 1.1:2 -:2 1.1:m - 1.1:7 - 1.1:2 - 4.0 1.1:4 -:2 1.1:8 5.1 -:2 1.1:2 -:2 1.1:3 -:7",
   "13.0 1.1:2 -:4 1.1:2 - 1.1:3 5.1:2 -:2 1.1:b 4.0 6.0:6 -:a 1.1:2 - 1.1:6 -:3 1.1:3 -",
   "1.1:4 -:3 1.1:2 - 1.1 - 1.1:2 -:3 1.1:2 -:3 1.1:3 -:3 1.1:8 4.1 1.1:3 -:4 1.1:5 -:3",
   "1.1:3 - 1.1:4 -:2 5.1 -:6 1.1 -:e 4.1 1.1:c 4.0:8 -:5 7.0 1.1:3 11.0 1.1:8 - 1.1:3 -",
   "1.1:n - 1.1:a 7.0 1.1:5 -:2 14.0 5.1 1.1:7 - 1.1:3 - 1.1:4 -:7 1.1:2 - 5.1:2 8.0 -:2",
   "14.0 -:2 1.1:2 5.1:2 -:2 1.1:a -:7 12.0 5.1:8 9.0 7.0 1.1:2 11.0 1.1:8 - 1.1:3 - 1.1:n",
   "- 1.1:a - 1.1:5 -:2 4.0:2 1.1:7 - 1.1:3 - 1.1:4 -:7 1.1:2 -:6 14.0 1.1 - 1.1:2 5.0:2",
   "-:2 1.1:a - 5.0:2 15.0 -:c 10.0 7.0 1.1:2 13.0 1.1:8 - 1.1:3 - 1.1:n 6.0 1.1:g 6.0",
   "10.0:2 5.1 1.1:6 5.1 - 1.1:3 - 1.1:4 6.0 9.0 -:4 9.0:3 1.1 9.0:7 8.0 1.1:2 5.1:2 -:2",
   "1.1:a 5.1:6 9.0:3 5.1:7 - 13.0 3.0:2 - 3.0:i -:3 3.0:o - 3.0:9 - 3.0 -:2 3.0:7 -:3 3.0",
   "-:4 3.0:6 - 3.0 - 3.0:8 -:6 7.0:a -:2 3.0:3 -:c 1.1:1m -:4 1.1:t -:11 1.1:2 - 1.1 -",
   "12.0 1.1:2 12.0 1.1 - 12.0 1.1 12.0:6 1.1:4 12.0 1.1:7 12.0 1.1:3 - 1.1 - 1.1 12.0:2",
   "1.1:2 12.0 1.1:d 12.0 1.1:3 -:2 1.1:5 - 1.1 - 1.1:6 15.0 - 1.1:a -:2 1.1:2 6.1:2 -:w",
   "2.0:20 - 2.0:x 3.0 5.1:2 -:4 2.0:r 6.0:4 2.0:6 3.0 2.0 - 2.0:l 3.0:3 2.0:7 3.0 2.0",
   "3.0:3 - 3.0:f - 5.1 3.0 4.1:2 5.1:3 5.2:4 6.0:2 -:11 3.0:y 5.1 3.0:5 5.1 3.0:2 5.1",
   "3.0:7 5.1:3 3.0:4 5.1:6 3.0:q 5.1:1s 5.2:4 5.1:2 1.1:12 - 6.1 -:5 6.1 -:2 1.1:13 3.2:2",
   "4.1:2 1.1 4.1 6.1:3 1.1:2i 5.2:5 1.1:1w 5.2:5 1.1:2a 5.2:6 3.0:7 4.1 3.0:1r 4.1 3.0 -",
   "3.0:4 -:2 3.0:7 - 3.0 - 3.0:4 -:2 3.0:13 4.1 3.0 - 3.0:4 -:2 3.0:v 4.1 3.0 - 3.0:4 -:2",
   "3.0:7 - 3.0 - 3.0:4 -:2 3.0:7 4.1 3.0:7 - 3.0:n 4.1 3.0:v 4.1 3.0 - 3.0:4 -:2 3.0:7",
   "4.1 3.0:13 4.1 3.0:j -:2 6.0:2 4.1:2 3.0:s -:3 4.1:q -:6 3.0:2d 8.0 -:2 8.0:6 -:2 5.2",
   "3.0:hi 5.2:9 3.0:t -:3 3.0:29 7.0:8 -:7 3.2:d 14.0 3.2:7 14.0 -:9 14.0 3.2:n -:9 3.2:k",
   "-:c 3.2:d - 3.2:3 - 3.2:2 -:c 3.0:2l 4.0 -:2 3.0:a -:6 4.0:a -:6 3.0:f 14.0 3.0:a -:6",
   "3.0:2g 11.0 -:7 3.0:16 5.1 -:5 5.2:1y -:a 4.0:t 7.0:2 - 4.0:c -:4 4.0:c -:4 4.0 -:3",
   "4.0:16 -:2 4.0:5 -:b 4.1:16 5.2:2 -:4 4.1:q -:6 4.1:a 5.2 -:3 4.1:2 4.0:w 4.1:s -:2",
   "4.1:2 5.2:1r - 5.2:t -:2 5.2:b -:6 5.2:a -:6 5.2:e -:2 7.0:f 13.0:2 14.0:e -:1d 5.0:24",
   "14.0 - 16.0:2 5.0:19 14.0:2 16.0 5.1:17 6.1:3 5.1:c 6.1:6 6.0:1g -:8 6.0:4 5.1:1k -:3",
   "5.1:f -:3 5.1:1f 9.0:9 16.0:2 -:5 11.0:17 -:2 11.0:3 6.1:8 -:8 5.2:z 6.1:4 10.0 7.0:2",
   "12.0 -:5 4.0:30 4.1:2g 5.0:7 5.1:s 7.0:f 10.0:4 14.0 9.0 6.0 5.2 5.0:2 1.1:4b 2.0",
   "5.1:4 1.1:2i 5.1:6 1.1:m -:2 1.1:6 -:2 1.1:12 -:2 1.1:6 -:2 1.1:8 - 1.1 - 1.1 - 1.1 -",
   "1.1:v -:2 1.1:1h - 1.1:f - 1.1:e -:2 1.1:6 - 1.1:j -:2 1.1:3 - 1.1:9 - 1.1:1b 3.0",
   "1.1:n 3.2 3.0:6 3.2:5 4.0:2 4.1:2 3.2 4.1:7 3.2:5 5.1 - 6.3:4 1.1:7 3.2 -:2 1.1:r -",
   "4.1:5 6.0:8 -:3 1.1:b 2.0 2.1 3.0:3 3.2:2 4.1:4 5.2:3 6.0 6.2 7.0:3 8.0 10.0 14.0 -:f",
   "1.1:i 3.0:2 3.2:7 4.1 5.0:4 5.1 -:f 1.1:1l 3.0:2 4.0 4.1 3.2:f 4.1 5.0:2 5.1 5.2:3",
   "1.1:1c 3.0 5.0 5.1:4 5.2 8.0:2 -:4 1.1:2j 3.0:9 3.2:c 1.1:6q 3.2:e 1.1 3.0 1.1:3d 3.0",
   "3.2 3.0:u 3.2:1g 4.0:2 4.1:b 5.0:c 5.2 6.0:b 7.0:7 9.0:4 10.0 1.1:11 3.0:2 16.0:3 -:m",
   "1.1:b -:l 1.1:3v 3.2:k 4.0 1.1:46 3.2:a 1.1:28 3.0:8 3.2:8 1.1:k 4.0:2 3.2:2 4.1 3.0",
   "1.1:2e 3.0:2 3.2:c 4.1:2 3.2:a 4.0:8 4.1:b 5.1 5.2:2 4.0:2 4.1:g 5.0 5.1:a 5.2:3 5.1:4",
   "5.2:a 6.0 5.2:j 6.0 5.2 6.0:4 5.2:o 7.0 1.1:4 6.0 1.1:4 6.0:2 1.1:s 6.0 1.1:z 6.0 1.1",
   "6.0 1.1:4 6.0:3 1.1 5.2 1.1:7 6.0:2 1.1:7 3.2:e 1.1:v 6.0:3 1.1:o 6.0 1.1:e 6.0 4.1:7",
   "5.0:4 6.1 5.1 6.1 6.0:2 3.2:s 5.1:4 3.2:g 3.0:74 3.2:e8 4.0:e 4.1:6 5.0:7 5.1:5 5.0:4",
   "5.1:15 7.0:3 5.1:5 5.2:5 7.0:q -:2 7.0:w - 13.0 7.0:y 11.0:3 7.0:c 12.0 7.0:8 10.0",
   "11.0:p 8.0:4 11.0:f 12.0 4.1:1b 14.0 4.1:1b 14.0 5.0:d 5.1:3 5.2 5.1:3 5.0:4 5.1:6",
   "5.2:2 4.1:2z 5.2:7 6.1:2 -:5 4.1:19 - 6.1 -:5 6.1 -:2 4.1:1i 6.1:2 -:7 4.1 6.0 -:e 6.0",
   "4.1:n -:9 4.1:7 - 4.1:7 - 4.1:7 - 4.1:7 - 4.1:7 - 4.1:7 - 4.1:7 - 4.1:7 - 5.1:w 4.1:o",
   "5.1:4 4.1:2 5.1:j 5.2 6.1:a 7.0:7 9.0:2 10.0:5 11.0:5 12.0 13.0:3 14.0:b -:y 3.0:q -",
   "3.0:2h -:c 3.0:5y -:q 3.0:c 15.1:4 1.1:1k 3.0:3 3.2:3 3.0 1.1 - 1.1:2c 3.2:2 -:2 1.1:6",
   "3.2:2 1.1:2m 3.2 -:5 1.1:14 5.1 10.0 11.0 - 1.1:2m - 1.1:g 3.0:o 6.0:3 13.0:5 4.1:g",
   "5.1:k 16.0:2 -:9 15.1 3.2:g 1.1:t 4.0:2 - 1.1:10 5.2:c 4.0 3.2:f 1.1:s 4.0:2 4.1",
   "1.1:1e 3.2:f 1.1:c 4.0:4 1.1:1b 12.1 1.1:3b 4.0:4 1.1:2r 4.0:2 1.1:v 4.0 3.0:52u",
   "13.0:a 4.0:1s 1.1:g4m 4.1:m 5.1:8 5.2:8 6.1 8.0:9 10.0:l 11.0:5 13.0:d 14.0:3 3.0:wd",
   "-:3 3.0:i 3.2:2 3.0:g 3.2 3.0:c 3.2 3.0:3 3.2 3.0 -:9 5.2:1c 5.1:8c -:k 5.1:w 6.0:2",
   "5.1:i 6.1:8 5.1:s 7.0:6 8.0 6.1 5.2:2g -:8 4.1:n 5.0:4 5.1:5 5.0:2 5.1:2z 6.0:2 8.0",
   "6.0:2 6.1:2 7.0:c 6.0:a 6.1 7.0:3 9.0 11.0 7.0:2 8.0:6 11.0:2 12.0:6 14.0:2 12.0:5",
   "13.0:4 16.0:3 -:2 14.0:2 - 14.0 - 14.0:5 16.0:3 -:l 14.0:3 13.0:2 7.0 6.1:2 6.0 5.1:5",
   "4.1:18 13.0 -:3 5.2:a -:6 5.0:1k -:8 5.1:1x 9.0 -:8 5.1:c -:6 5.2:s 8.0:2 11.0:2",
   "5.1:2c -:b 5.1 5.2:t -:3 5.2:26 - 5.2:b -:4 5.2:2 7.0:v - 5.1:1j -:9 5.1:e -:2 5.1:a",
   "-:2 5.1:4 5.2:s 7.0:4 5.2:1v -:o 5.2:5 6.1:n -:a 6.0:6 -:2 6.0:6 -:2 6.0:6 -:9 6.0:7 -",
   "6.0:7 - 7.0:1c 8.0:4 7.0:2 12.0:2 13.0:4 -:4 8.0:28 5.2:1a -:2 5.2:a -:6 2.0:8mc -:c",
   "5.2:n -:4 5.2:1d -:4 2.0:1kw 1.1:566 6.1:2 3.2:1n 5.2:3 -:2 4.1:2y -:12 1.1:7 -:c",
   "1.1:5 -:5 3.0 1.1:p - 1.1:5 - 1.1 - 1.1:2 - 1.1:2 - 1.1:30 6.0:g 14.0 -:g 1.1:a5",
   "14.0:g 1.1:1s -:2 1.1:1i -:7 14.0 3.1:w 1.1:c 3.2 4.0 14.0:2 3.2:g 4.1:a -:6 1.1:4",
   "5.1:3 7.0:7 8.0:2 1.1:l 3.2:2 4.0:2 1.1:a - 1.1:j - 1.1:4 -:4 1.1:3 3.2 1.1 - 1.1:3r",
   "-:2 1.1 - 1.1:2m 3.2:2 1.1:2m -:3 1.1:6 -:2 1.1:6 -:2 1.1:6 -:2 1.1:3 -:3 1.1:7 -",
   "1.1:7 -:a 3.0:3 2.1 1.1:3 4.0:c - 4.0:q - 4.0:j - 4.0:2 - 4.0:f -:2 4.0:e -:y 4.0:3f",
   "-:5 4.0:3 -:4 4.0:19 -:3 4.0:9 4.1:23 7.0:2 9.0:2 - 5.1:c 13.0 -:3 7.0 -:1b 5.1:1a",
   "-:3m 5.1:t -:3 5.1:1d -:f 7.0:s -:4 3.1:v 7.0 3.1:4 -:9 10.0:3 3.1:r -:5 7.0:17 -:5",
   "4.0:u - 4.0 4.1:10 -:4 4.1:e -:16 3.1:12 4.0:2 3.1:12 4.0:28 -:2 4.0:a -:6 9.0:10 -:4",
   "9.0:10 -:4 7.0:14 -:8 7.0:1g -:b 7.0 14.0:b - 14.0:f - 14.0:7 - 14.0:2 - 14.0:b -",
   "14.0:f - 14.0:7 - 14.0:2 -:3 16.0:1g -:c 7.0:8n -:9 7.0:m -:a 7.0:8 -:o 14.0:6 -",
   "14.0:16 - 14.0:9 -:1x 4.0:6 -:2 4.0 - 4.0:18 - 4.0:2 -:3 4.0 -:2 4.0 5.2:m - 5.2:9",
   "7.0:1r -:8 7.0:9 -:1c 8.0:j - 8.0:2 -:5 8.0:5 5.0:q 5.2:2 -:3 5.0 5.1:q -:5 5.1 -:1s",
   "6.1:1k -:4 8.0:2 6.1:2 8.0:g -:2 8.0:1a 4.1:4 - 4.1:2 -:5 4.1:8 - 4.1:3 - 4.1:r 11.0:2",
   "-:2 4.1:3 -:4 4.1:9 11.0 -:7 4.1:9 -:7 5.2:w 7.0:w -:w 7.0:13 -:4 7.0:c -:9 5.2:1i -:3",
   "5.2:t -:2 5.2:r -:5 5.2:8 7.0:i -:7 7.0:4 -:c 7.0:7 -:28 5.2:21 -:1j 8.0:1f -:d 8.0:1f",
   "-:7 8.0:6 11.0:14 -:8 11.0:a -:6 16.0:12 -:3 16.0:t -:8 16.0:2 -:5s 5.2:v - 13.0:16 -",
   "13.0:3 -:2 13.0:2 -:g 16.0:3 -:1j 16.0 15.0:3 11.0:14 -:8 11.0:16 -:m 14.0:q -:12",
   "13.0:s -:k 12.0:n -:9 6.0:26 -:4 6.0:u 14.0:6 -:9 7.0 5.2:1u 14.0 -:a 11.0 -:2 6.1:p",
   "-:7 6.1:a -:6 6.1:1h - 6.1:e 11.0:3 13.0 -:8 7.0:13 -:9 6.1:21 8.0:4 7.0 13.0:2 6.1:a",
   "7.0 8.0:5 - 7.0:k -:b 7.0:i - 7.0:17 9.0 15.0:3 -:1q 8.0:7 - 8.0 - 8.0:4 - 8.0:f -",
   "8.0:b -:6 7.0:1n -:5 7.0:a -:6 8.0 7.0:3 - 7.0:8 -:2 7.0:2 -:2 7.0:m - 7.0:7 - 7.0:2 -",
   "7.0:5 - 11.0 7.0:9 -:2 7.0:2 -:2 7.0:3 -:2 8.0 -:6 7.0 -:5 7.0:7 -:2 7.0:7 -:3 7.0:5",
   "-:b 16.0:a - 16.0 -:2 16.0 - 16.0:12 - 16.0:a - 16.0 -:2 16.0 - 16.0:4 - 16.0:a -",
   "16.0:2 -:8 16.0:2 -:t 9.0:2i 13.0 9.0 - 9.0 11.0 12.0 13.0:2 -:u 7.0:20 -:8 7.0:a -:4m",
   "7.0:1i -:2 7.0:i 8.0:k -:y 7.0:1x -:b 7.0:a -:6 9.0:d -:j 6.1:1k 12.0 14.0 -:6 6.1:a",
   "-:6 16.0:k -:s 8.0:q 11.0 -:2 8.0:f -:4 8.0:g 14.0:7 -:55 11.0:1o -:2s 7.0:2b -:c 7.0",
   "13.0:7 -:2 13.0 -:2 13.0:8 - 13.0:2 - 13.0:u - 13.0:2 -:2 13.0:c -:9 13.0:a -:1y",
   "12.0:8 -:2 12.0:1a -:2 12.0:b -:r 10.0:20 -:8 10.0:1g 12.0:2 10.0:n 11.0 10.0:5 -:d",
   "14.0:g 7.0:1l -:7 15.0:a -:52 16.0:y -:e 16.0:a -:6 9.0:9 - 9.0:19 - 9.0:e -:a 9.0:t",
   "-:3 9.0:w -:2 9.0:m - 9.0:e -:21 10.0:7 - 10.0:2 - 10.0:18 -:3 10.0 - 10.0:2 - 10.0:9",
   "-:8 10.0:a -:6 11.0:6 - 11.0:2 - 11.0:11 - 11.0:2 - 11.0:6 -:7 11.0:a -:8m 11.0:p -:7",
   "15.0:h - 15.0:15 -:3 15.0:s 16.0 -:2d 13.0 -:f 12.0:1e -:d 12.0 5.0:of 7.0:16 8.0 -:2u",
   "5.0:2r 7.0:c - 5.0:4 7.0 -:b 8.0:5g -:218 14.0:2r -:d 5.2:tr 15.0 12.0:9 15.0:t -:a",
   "16.0:32z -:5 8.0:g7 -:5a1 16.0:1m -:1c6 6.0:ft -:7 7.0:v - 7.0:a -:4 7.0:2 14.0:27 -",
   "14.0:a -:6 7.0:u -:2 7.0:6 -:a 7.0:1y -:a 7.0:a - 7.0:7 - 7.0:l -:5 7.0:j -:c0 16.0:1m",
   "-:5i 11.0:2j -:2t 6.1:1x 12.0:6 -:4 12.0 6.1:1b 12.0:9 -:7 6.1:h -:1s 9.0 10.0 12.0:2",
   "13.0 -:b 13.0:2 -:e 9.0:4q5 11.0:5 12.0:6 -:8 9.0:kz 13.0:df -:15 16.0 13.0:9 -:6w7",
   "14.0:4 - 14.0:7 - 14.0:2 - 6.0:2 10.0:7x 14.0:4 -:f 15.0 -:t 12.0:3 -:2 15.0 -:e",
   "12.0:4 -:8 10.0:b0 -:1s4 7.0:2z -:5 7.0:d -:3 7.0:9 -:7 7.0:a -:2 7.0:8 -:318 16.0:6y",
   "-:6 16.0:c4 -:24 14.0:1a -:2 14.0:n -:9 14.0:38 -:1o 3.1:6u -:a 3.1:13 -:2 5.1 3.1:50",
   "8.0:b 14.0:2 -:l 4.1:1y -:3e 15.0:k -:c 11.0:k -:c 4.0:2f -:9 5.0:i 11.0:7 -:3r 3.1:2d",
   "- 3.1:1z - 3.1:2 -:2 3.1 -:2 3.1:2 -:2 3.1:4 - 3.1:c - 3.1 - 3.1:4 4.0 3.1:2 - 3.1:1t",
   "- 3.1:4 -:2 3.1:8 - 3.1:7 - 3.1:s - 3.1:4 - 3.1:5 - 3.1 -:3 3.1:7 - 3.1:9e 4.1:2 -:2",
   "3.1:82 5.0:2 -:2 3.1:1e 8.0:i4 -:f 8.0:5 - 8.0:f -:uo 14.0:v -:6 15.0:6 -:5x 9.0:7 -",
   "9.0:h -:2 9.0:7 - 9.0:2 - 9.0:5 -:5 15.0:1q -:x 15.0 -:34 12.0:19 -:3 12.0:e -:2",
   "12.0:a -:4 12.0:2 -:8w 14.0:v -:h 12.0:1m -:5 12.0 -:cw 15.0:16 -:5y 16.0:17 -:4 16.0",
   "-:dc 14.0:7 - 14.0:4 - 14.0:2 - 14.0:f - 7.0:5h -:2 7.0:g -:15 9.0:23 12.0 -:4 9.0:a",
   "-:4 9.0:2 -:lt 11.0:1w -:24 12.0:1p -:5e 6.1:4 - 6.1:r - 6.1:2 - 6.1 -:2 6.1 - 6.1:a -",
   "6.1:4 - 6.1 - 6.1 -:6 6.1 -:4 6.1 - 6.1 - 6.1 - 6.1:3 - 6.1:2 - 6.1 -:2 6.1 - 6.1 -",
   "6.1 - 6.1 - 6.1 - 6.1:2 - 6.1 -:2 6.1:4 - 6.1:7 - 6.1:4 - 6.1:4 - 6.1 - 6.1:a - 6.1:h",
   "-:5 6.1:3 - 6.1:5 - 6.1:h -:1g 6.1:2 -:7i 5.1:18 -:4 5.1:2s -:c 6.0:f -:2 6.0:e 7.0 -",
   "6.0:f - 6.0:f 7.0:m -:a 5.2:b 7.0:2 13.0:3 5.2:v 11.0 6.0 5.2 6.0:b 5.2 6.0 5.2 6.0:2",
   "5.2 6.0:3 5.2 6.0:3 5.2:5 6.0:8 5.2 6.0:7 5.2 6.0:a 6.1:2 12.0 13.0:3 6.0:9 5.2 6.0",
   "5.2:2 6.0:2 5.2 6.0:a 5.2:4 6.0:2 5.2 6.0:a 9.0:i 13.0 -:1k 6.0:q 5.2 6.0:2 -:d 5.2:y",
   "6.0:9 9.0 -:4 5.2:9 -:7 6.0:2 -:e 10.0:6 -:4a 6.0:x 7.0:c 8.0:3 6.0:6 7.0 6.0:1y 7.0",
   "8.0:2 6.0:k 7.0:c 6.0:11 7.0 6.0:5 7.0:4 8.0:5 7.0:c 6.0:h 7.0:7 8.0:8 6.0:1r 7.0 6.0",
   "7.0 6.0:52 7.0 6.0:4 7.0:2 8.0 6.0:1q 7.0:2 6.1:4 7.0:7 8.0:5 6.0:o 7.0:i 9.0 7.0:15",
   "9.0 7.0:2e 6.0:5 6.1 6.0:g 6.1 6.0:3 6.1 6.0 6.1 6.0 6.1 6.0 6.1 6.0:3 6.1 6.0:6 6.1:2",
   "6.0:4 6.1 6.0 6.1:2 6.0:4 6.1 6.0:c 7.0:2 8.0:2 6.0:b 7.0:1c 6.0:1y 7.0:a 8.0 9.0:2",
   "10.0:2 12.0 13.0:2 -:4 15.0 14.0:3 7.0:d -:3 7.0:4 9.0:3 10.0:2 11.0 12.0 13.0:2 -:3",
   "6.0:38 15.0:3 -:4 15.0:5 7.0:2d 11.0:4 15.0 -:6 12.0:c -:4 14.0 -:f 7.0:c -:4 7.0:1k",
   "-:8 7.0:a -:6 7.0:14 -:8 7.0:u -:2 13.0:2 16.0:a -:4 16.0:2 -:1q 10.0:c 13.0 12.0:3",
   "8.0:9 9.0:6 10.0 9.0:8 10.0:8 9.0 10.0:2 9.0:c 12.0 9.0:c 10.0 11.0:3 9.0:f 10.0:d",
   "11.0:5 12.0 13.0 11.0:4 13.0:2 14.0 11.0 12.0 11.0:4 8.0:5 9.0:d 10.0:6 11.0:b 13.0:2",
   "12.0:6 13.0:3 12.0:2 11.0:a 12.0:6 8.0 11.0:2 12.0:8 13.0 14.0 12.0:3 10.0:n 11.0:p",
   "12.0:2c -:c 11.0:e -:2 12.0:4 13.0 15.0:3 12.0:3 14.0:2 -:3 12.0:3 13.0:4 15.0:2 16.0",
   "-:5 16.0 12.0:6 13.0:j 14.0:4 15.0:3 13.0:7 14.0:4 15.0:3 16.0 15.0 13.0:3 14.0:3 16.0",
   "-:7 15.0:2 13.0:7 14.0:3 15.0:2 16.0 -:2 16.0 14.0:8 15.0 16.0 -:6 14.0:7 15.0:2 -:7",
   "13.0:43 - 13.0:1j 16.0:11 13.0:a -:sk 2.0:2 3.1:wyf 13.0:7 14.0:2 -:w 5.2:379 14.0:4",
   "15.0 -:6 6.0:66 -:2 8.0:4g2 -:e 10.0:5rl -:f 15.1:ha -:1wi 3.1:f2 -:15s 2.0:2 13.0:3t7",
   "-:5 15.0:38g -:17im 2.0:2 -:1eke 2.0:2 -:1eke 2.0:2 -:1eke 2.0:2 -:1eke 2.0:2 -:1eke",
   "2.0:2 -:1eke 2.0:2 -:1eke 2.0:2 -:1eke 2.0:2 -:1eke 2.0:2 -:1eke 2.0:2 - 3.1 -:u",
   "3.1:2o -:3k 4.0:6o -:1e6m 2.0:2t4y"]

/-- The versions in order. -/
def versions : List String :=
  ["1.1", "2.0", "2.1", "3.0", "3.1", "3.2", "4.0", "4.1", "5.0", "5.1", "5.2", "6.0", "6.1",
   "6.2", "6.3", "7.0", "8.0", "9.0", "10.0", "11.0", "12.0", "12.1", "13.0", "14.0", "15.0",
   "15.1", "16.0"]

/-- The name of a version with a letter in front and without its point, such as `v60`. -/
def versionName (version : String) : String :=
  String.ofList ('v' :: version.toList.filter (· != '.'))

/-- The characters of a version, which is named as in `6.0` or `v60`. -/
def ofAge? (name : String) : Option CodePoints :=
  let named (version : String) : Bool := version == name || versionName version == name
  if versions.any named then
    let earlier := versions.takeWhile (!named ·)
    let upTo := earlier ++ (versions.drop earlier.length).take 1
    some (.ofSlices upTo ageSlices)
  else none

end Pattern

end TableMapper
