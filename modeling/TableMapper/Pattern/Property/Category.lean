import TableMapper.Pattern.CodePoints

/-!
# General categories

Every code point has one general category, written with two letters.

* `ofCategories` is the set of the characters in some categories.
* `categories?` finds a category, or a group of categories, by its name.
-/

namespace TableMapper

namespace Pattern

/-- The categories of the code points from zero on, as slices.  Surrogates are in `Cs`. -/
def categorySlices : List String :=
  ["Cc:w Zs Po:3 Sc Po:3 Ps Pe Po Sm Po Pd Po:2 Nd:a Po:2 Sm:3 Po:2 Lu:q Ps Po Pe Sk Pc Sk",
   "Ll:q Ps Sm Pe Sm Cc:x Zs Po Sc:4 So Po Sk So Lo Pi Sm Cf So Sk So Sm No:2 Sk Ll Po:2",
   "Sk No Lo Pf No:3 Po Lu:n Sm Lu:7 Ll:o Sm Ll:8 Lu Ll Lu Ll Lu Ll Lu Ll Lu Ll Lu Ll Lu",
   "Ll Lu Ll Lu Ll Lu Ll Lu Ll Lu Ll Lu Ll Lu Ll Lu Ll Lu Ll Lu Ll Lu Ll Lu Ll Lu Ll Lu Ll",
   "Lu Ll Lu Ll Lu Ll Lu Ll Lu Ll Lu Ll Lu Ll:2 Lu Ll Lu Ll Lu Ll Lu Ll Lu Ll Lu Ll Lu Ll",
   "Lu Ll:2 Lu Ll Lu Ll Lu Ll Lu Ll Lu Ll Lu Ll Lu Ll Lu Ll Lu Ll Lu Ll Lu Ll Lu Ll Lu Ll",
   "Lu Ll Lu Ll Lu Ll Lu Ll Lu Ll Lu Ll Lu Ll Lu Ll Lu Ll Lu Ll Lu:2 Ll Lu Ll Lu Ll:3 Lu:2",
   "Ll Lu Ll Lu:2 Ll Lu:3 Ll:2 Lu:4 Ll Lu:2 Ll Lu:3 Ll:3 Lu:2 Ll Lu:2 Ll Lu Ll Lu Ll Lu:2",
   "Ll Lu Ll:2 Lu Ll Lu:2 Ll Lu:3 Ll Lu Ll Lu:2 Ll:2 Lo Lu Ll:3 Lo:4 Lu Lt Ll Lu Lt Ll Lu",
   "Lt Ll Lu Ll Lu Ll Lu Ll Lu Ll Lu Ll Lu Ll Lu Ll Lu Ll:2 Lu Ll Lu Ll Lu Ll Lu Ll Lu Ll",
   "Lu Ll Lu Ll Lu Ll Lu Ll:2 Lu Lt Ll Lu Ll Lu:3 Ll Lu Ll Lu Ll Lu Ll Lu Ll Lu Ll Lu Ll",
   "Lu Ll Lu Ll Lu Ll Lu Ll Lu Ll Lu Ll Lu Ll Lu Ll Lu Ll Lu Ll Lu Ll Lu Ll Lu Ll Lu Ll Lu",
   "Ll Lu Ll Lu Ll Lu Ll Lu Ll Lu Ll Lu Ll Lu Ll Lu Ll:7 Lu:2 Ll Lu:2 Ll:2 Lu Ll Lu:4 Ll",
   "Lu Ll Lu Ll Lu Ll Lu Ll:1x Lo Ll:r Lm:i Sk:4 Lm:c Sk:e Lm:5 Sk:7 Lm Sk Lm Sk:h Mn:34",
   "Lu Ll Lu Ll Lm Sk Lu Ll Cn:2 Lm Ll:3 Po Lu Cn:4 Sk:2 Lu Po Lu:3 Cn Lu Cn Lu:2 Ll Lu:h",
   "Cn Lu:9 Ll:z Lu Ll:2 Lu:3 Ll:3 Lu Ll Lu Ll Lu Ll Lu Ll Lu Ll Lu Ll Lu Ll Lu Ll Lu Ll",
   "Lu Ll Lu Ll Lu Ll:5 Lu Ll Sm Lu Ll Lu:2 Ll:2 Lu:1f Ll:1c Lu Ll Lu Ll Lu Ll Lu Ll Lu Ll",
   "Lu Ll Lu Ll Lu Ll Lu Ll Lu Ll Lu Ll Lu Ll Lu Ll Lu Ll Lu Ll Lu Ll Lu Ll So Mn:5 Me:2",
   "Lu Ll Lu Ll Lu Ll Lu Ll Lu Ll Lu Ll Lu Ll Lu Ll Lu Ll Lu Ll Lu Ll Lu Ll Lu Ll Lu Ll Lu",
   "Ll Lu Ll Lu Ll Lu Ll Lu Ll Lu Ll Lu Ll Lu Ll Lu Ll Lu Ll Lu Ll Lu Ll Lu Ll Lu:2 Ll Lu",
   "Ll Lu Ll Lu Ll Lu Ll Lu Ll Lu Ll:2 Lu Ll Lu Ll Lu Ll Lu Ll Lu Ll Lu Ll Lu Ll Lu Ll Lu",
   "Ll Lu Ll Lu Ll Lu Ll Lu Ll Lu Ll Lu Ll Lu Ll Lu Ll Lu Ll Lu Ll Lu Ll Lu Ll Lu Ll Lu Ll",
   "Lu Ll Lu Ll Lu Ll Lu Ll Lu Ll Lu Ll Lu Ll Lu Ll Lu Ll Lu Ll Lu Ll Lu Ll Lu Ll Lu Ll Lu",
   "Ll Lu Ll Lu Ll Lu Ll Lu Ll Lu Ll Lu Ll Lu Ll Lu Ll Lu Ll Lu Ll Cn Lu:12 Cn:2 Lm Po:6",
   "Ll:15 Po Pd Cn:2 So:2 Sc Cn Mn:19 Pd Mn Po Mn:2 Po Mn:2 Po Mn Cn:8 Lo:r Cn:4 Lo:4 Po:2",
   "Cn:b Cf:6 Sm:3 Po:2 Sc Po:2 So:2 Mn:b Po Cf Po:3 Lo:w Lm Lo:a Mn:l Nd:a Po:4 Lo:2 Mn",
   "Lo:2r Po Lo Mn:7 Cf So Mn:6 Lm:2 Mn:2 So Mn:4 Lo:2 Nd:a Lo:3 So:2 Lo Po:e Cn Cf Lo Mn",
   "Lo:u Mn:r Cn:2 Lo:2h Mn:b Lo Cn:e Nd:a Lo:x Mn:9 Lm:2 So Po:3 Lm Cn:2 Mn Sc:2 Lo:m",
   "Mn:4 Lm Mn:9 Lm Mn:3 Lm Mn:5 Cn:2 Po:f Cn Lo:p Mn:3 Cn:2 Po Cn Lo:b Cn:5 Lo:o Sk Lo:6",
   "Cn Cf:2 Cn:5 Mn:9 Lo:15 Lm Mn:o Cf Mn:w Mc Lo:1i Mn Mc Mn Lo Mc:3 Mn:8 Mc:4 Mn Mc:2 Lo",
   "Mn:7 Lo:a Mn:2 Po:2 Nd:a Po Lm Lo:f Mn Mc:2 Cn Lo:8 Cn:2 Lo:2 Cn:2 Lo:m Cn Lo:7 Cn Lo",
   "Cn:3 Lo:4 Cn:2 Mn Lo Mc:3 Mn:4 Cn:2 Mc:2 Cn:2 Mc:2 Mn Lo Cn:8 Mc Cn:4 Lo:2 Cn Lo:3",
   "Mn:2 Cn:2 Nd:a Lo:2 Sc:2 No:6 So Sc Lo Po Mn Cn:2 Mn:2 Mc Cn Lo:6 Cn:4 Lo:2 Cn:2 Lo:m",
   "Cn Lo:7 Cn Lo:2 Cn Lo:2 Cn Lo:2 Cn:2 Mn Cn Mc:3 Mn:2 Cn:4 Mn:2 Cn:2 Mn:3 Cn:3 Mn Cn:7",
   "Lo:4 Cn Lo Cn:7 Nd:a Mn:2 Lo:3 Mn Po Cn:a Mn:2 Mc Cn Lo:9 Cn Lo:3 Cn Lo:m Cn Lo:7 Cn",
   "Lo:2 Cn Lo:5 Cn:2 Mn Lo Mc:3 Mn:5 Cn Mn:2 Mc Cn Mc:2 Mn Cn:2 Lo Cn:f Lo:2 Mn:2 Cn:2",
   "Nd:a Po Sc Cn:7 Lo Mn:6 Cn Mn Mc:2 Cn Lo:8 Cn:2 Lo:2 Cn:2 Lo:m Cn Lo:7 Cn Lo:2 Cn Lo:5",
   "Cn:2 Mn Lo Mc Mn Mc Mn:4 Cn:2 Mc:2 Cn:2 Mc:2 Mn Cn:7 Mn:2 Mc Cn:4 Lo:2 Cn Lo:3 Mn:2",
   "Cn:2 Nd:a So Lo No:6 Cn:a Mn Lo Cn Lo:6 Cn:3 Lo:3 Cn Lo:4 Cn:3 Lo:2 Cn Lo Cn Lo:2 Cn:3",
   "Lo:2 Cn:3 Lo:3 Cn:3 Lo:c Cn:4 Mc:2 Mn Mc:2 Cn:3 Mc:3 Cn Mc:3 Mn Cn:2 Lo Cn:6 Mc Cn:e",
   "Nd:a No:3 So:6 Sc So Cn:5 Mn Mc:3 Mn Lo:8 Cn Lo:3 Cn Lo:n Cn Lo:g Cn:2 Mn Lo Mn:3 Mc:4",
   "Cn Mn:3 Cn Mn:4 Cn:7 Mn:2 Cn Lo:3 Cn:2 Lo Cn:2 Lo:2 Mn:2 Cn:2 Nd:a Cn:7 Po No:7 So Lo",
   "Mn Mc:2 Po Lo:8 Cn Lo:3 Cn Lo:n Cn Lo:a Cn Lo:5 Cn:2 Mn Lo Mc Mn Mc:5 Cn Mn Mc:2 Cn",
   "Mc:2 Mn:2 Cn:7 Mc:2 Cn:6 Lo:2 Cn Lo:2 Mn:2 Cn:2 Nd:a Cn Lo:2 Mc Cn:c Mn:2 Mc:2 Lo:9 Cn",
   "Lo:3 Cn Lo:15 Mn:2 Lo Mc:3 Mn:4 Cn Mc:3 Cn Mc:3 Mn Lo So Cn:4 Lo:3 Mc No:7 Lo:3 Mn:2",
   "Cn:2 Nd:a No:9 So Lo:6 Cn Mn Mc:2 Cn Lo:i Cn:3 Lo:o Cn Lo:9 Cn Lo Cn:2 Lo:7 Cn:3 Mn",
   "Cn:4 Mc:3 Mn:3 Cn Mn Cn Mc:8 Cn:6 Nd:a Cn:2 Mc:2 Po Cn:c Lo:1c Mn Lo:2 Mn:7 Cn:4 Sc",
   "Lo:6 Lm Mn:8 Po Nd:a Po:2 Cn:11 Lo:2 Cn Lo Cn Lo:5 Cn Lo:o Cn Lo Cn Lo:a Mn Lo:2 Mn:9",
   "Lo Cn:2 Lo:5 Cn Lm Cn Mn:7 Cn Nd:a Cn:2 Lo:4 Cn:w Lo So:3 Po:f So Po So:3 Mn:2 So:6",
   "Nd:a No:a So Mn So Mn So Mn Ps Pe Ps Pe Mc:2 Lo:8 Cn Lo:10 Cn:4 Mn:e Mc Mn:5 Po Mn:2",
   "Lo:5 Mn:b Cn Mn:10 Cn So:8 Mn So:6 Cn So:2 Po:5 So:4 Po:2 Cn:11 Lo:17 Mc:2 Mn:4 Mc",
   "Mn:6 Mc Mn:2 Mc:2 Mn:2 Lo Nd:a Po:6 Lo:6 Mc:2 Mn:2 Lo:4 Mn:3 Lo Mc:3 Lo:2 Mc:7 Lo:3",
   "Mn:4 Lo:d Mn Mc:2 Mn:2 Mc:6 Mn Lo Mc Nd:a Mc:3 Mn So:2 Lu:12 Cn Lu Cn:5 Lu Cn:2 Ll:17",
   "Po Lm Ll:3 Lo:95 Cn Lo:4 Cn:2 Lo:7 Cn Lo Cn Lo:4 Cn:2 Lo:15 Cn Lo:4 Cn:2 Lo:x Cn Lo:4",
   "Cn:2 Lo:7 Cn Lo Cn Lo:4 Cn:2 Lo:f Cn Lo:1l Cn Lo:4 Cn:2 Lo:1v Cn:2 Mn:3 Po:9 No:k Cn:3",
   "Lo:g So:a Cn:6 Lu:2e Cn:2 Ll:6 Cn:2 Pd Lo:h8 So Po Lo:h Zs Lo:q Ps Pe Cn:3 Lo:23 Po:3",
   "Nl:3 Lo:8 Cn:7 Lo:i Mn:3 Mc Cn:9 Lo:j Mn:2 Mc Po:2 Cn:9 Lo:i Mn:2 Cn:c Lo:d Cn Lo:3 Cn",
   "Mn:2 Cn:c Lo:1g Mn:2 Mc Mn:7 Mc:8 Mn Mc:2 Mn:b Po:3 Lm Po:3 Sc Lo Mn Cn:2 Nd:a Cn:6",
   "No:a Cn:6 Po:6 Pd Po:4 Mn:3 Cf Mn Nd:a Cn:6 Lo:z Lm Lo:1h Cn:7 Lo:5 Mn:2 Lo:y Mn Lo",
   "Cn:5 Lo:1y Cn:a Lo:v Cn Mn:3 Mc:4 Mn:2 Mc:3 Cn:4 Mc:2 Mn Mc:6 Mn:3 Cn:4 So Cn:3 Po:2",
   "Nd:a Lo:u Cn:2 Lo:5 Cn:b Lo:18 Cn:4 Lo:q Cn:6 Nd:a No Cn:3 So:y Lo:n Mn:2 Mc:2 Mn Cn:2",
   "Po:2 Lo:1h Mc Mn Mc Mn:7 Cn Mn Mc Mn Mc:2 Mn:8 Mc:6 Mn:a Cn:2 Mn Nd:a Cn:6 Nd:a Cn:6",
   "Po:7 Lm Po:6 Cn:2 Mn:e Me Mn:g Cn:1d Mn:4 Mc Lo:1b Mn Mc Mn:5 Mc Mn Mc:5 Mn Mc:2 Lo:8",
   "Cn Po:2 Nd:a Po:7 So:a Mn:9 So:9 Po:3 Mn:2 Mc Lo:u Mc Mn:4 Mc:2 Mn:2 Mc Mn:3 Lo:2 Nd:a",
   "Lo:18 Mn Mc Mn:2 Mc:3 Mn Mc Mn:3 Mc:2 Cn:8 Po:4 Lo:10 Mc:8 Mn:8 Mc:2 Mn:2 Cn:3 Po:5",
   "Nd:a Cn:3 Lo:3 Nd:a Lo:u Lm:6 Po:2 Ll:9 Lu Ll Cn:5 Lu:17 Cn:2 Lu:3 Po:8 Cn:8 Mn:3 Po",
   "Mn:d Mc Mn:7 Lo:4 Mn Lo:6 Mn Lo:2 Mc Mn:2 Lo Cn:5 Ll:18 Lm:1r Ll:d Lm Ll:y Lm:11 Mn:1s",
   "Lu Ll Lu Ll Lu Ll Lu Ll Lu Ll Lu Ll Lu Ll Lu Ll Lu Ll Lu Ll Lu Ll Lu Ll Lu Ll Lu Ll Lu",
   "Ll Lu Ll Lu Ll Lu Ll Lu Ll Lu Ll Lu Ll Lu Ll Lu Ll Lu Ll Lu Ll Lu Ll Lu Ll Lu Ll Lu Ll",
   "Lu Ll Lu Ll Lu Ll Lu Ll Lu Ll Lu Ll Lu Ll Lu Ll Lu Ll Lu Ll Lu Ll Lu Ll Lu Ll Lu Ll Lu",
   "Ll Lu Ll Lu Ll Lu Ll Lu Ll Lu Ll Lu Ll Lu Ll Lu Ll Lu Ll Lu Ll Lu Ll Lu Ll Lu Ll Lu Ll",
   "Lu Ll Lu Ll Lu Ll Lu Ll Lu Ll Lu Ll Lu Ll Lu Ll Lu Ll Lu Ll Lu Ll Lu Ll Lu Ll Lu Ll Lu",
   "Ll Lu Ll Lu Ll:9 Lu Ll Lu Ll Lu Ll Lu Ll Lu Ll Lu Ll Lu Ll Lu Ll Lu Ll Lu Ll Lu Ll Lu",
   "Ll Lu Ll Lu Ll Lu Ll Lu Ll Lu Ll Lu Ll Lu Ll Lu Ll Lu Ll Lu Ll Lu Ll Lu Ll Lu Ll Lu Ll",
   "Lu Ll Lu Ll Lu Ll Lu Ll Lu Ll Lu Ll Lu Ll Lu Ll Lu Ll Lu Ll Lu Ll Lu Ll Lu Ll Lu Ll Lu",
   "Ll Lu Ll Lu Ll Lu Ll Lu Ll Lu Ll Lu Ll Lu Ll Lu Ll:9 Lu:8 Ll:6 Cn:2 Lu:6 Cn:2 Ll:8",
   "Lu:8 Ll:8 Lu:8 Ll:6 Cn:2 Lu:6 Cn:2 Ll:8 Cn Lu Cn Lu Cn Lu Cn Lu Ll:8 Lu:8 Ll:e Cn:2",
   "Ll:8 Lt:8 Ll:8 Lt:8 Ll:8 Lt:8 Ll:5 Cn Ll:2 Lu:4 Lt Sk Ll Sk:3 Ll:3 Cn Ll:2 Lu:4 Lt",
   "Sk:3 Ll:4 Cn:2 Ll:2 Lu:4 Cn Sk:3 Ll:8 Lu:5 Sk:3 Cn:2 Ll:3 Cn Ll:2 Lu:4 Lt Sk:2 Cn Zs:b",
   "Cf:5 Pd:6 Po:2 Pi Pf Ps Pi:2 Pf Ps Pi Po:8 Zl Zp Cf:5 Zs Po:9 Pi Pf Po:4 Pc:2 Po:3 Sm",
   "Ps Pe Po:b Sm Po Pc Po:a Zs Cf:5 Cn Cf:a No Lm Cn:2 No:6 Sm:3 Ps Pe Lm No:a Sm:3 Ps Pe",
   "Cn Lm:d Cn:3 Sc:x Cn:f Mn:d Me:4 Mn Me:3 Mn:c Cn:f So:2 Lu So:4 Lu So:2 Ll Lu:3 Ll:2",
   "Lu:3 Ll So Lu So:2 Sm Lu:5 So:6 Lu So Lu So Lu So Lu:4 So Ll Lu:4 Ll Lo:4 Ll So:2 Ll:2",
   "Lu:2 Sm:5 Lu Ll:4 So Sm So:2 Ll So No:g Nl:z Lu Ll Nl:4 No So:2 Cn:4 Sm:5 So:5 Sm:2",
   "So:4 Sm So:2 Sm So:2 Sm So:7 Sm So:v Sm:2 So:2 Sm So Sm So:v Sm:7g So:8 Ps Pe Ps Pe",
   "So:k Sm:2 So:7 Ps Pe So:29 Sm So:u Sm:p So:14 Sm:6 So:20 Cn:m So:b Cn:l No:1o So:26",
   "No:m So:53 Sm So:9 Sm So:1i Sm:8 So:33 Sm So:6w Ps Pe Ps Pe Ps Pe Ps Pe Ps Pe Ps Pe Ps",
   "Pe No:u So:18 Sm:5 Ps Pe Sm:v Ps Pe Ps Pe Ps Pe Ps Pe Ps Pe Sm:g So:74 Sm:3n Ps Pe Ps",
   "Pe Ps Pe Ps Pe Ps Pe Ps Pe Ps Pe Ps Pe Ps Pe Ps Pe Ps Pe Sm:1r Ps Pe Ps Pe Sm:w Ps Pe",
   "Sm:76 So:1c Sm:l So:2 Sm:6 So:13 Cn:2 So:w Cn So:2x Lu:1c Ll:1c Lu Ll Lu:3 Ll:2 Lu Ll",
   "Lu Ll Lu Ll Lu:4 Ll Lu Ll:2 Lu Ll:6 Lm:2 Lu:3 Ll Lu Ll Lu Ll Lu Ll Lu Ll Lu Ll Lu Ll",
   "Lu Ll Lu Ll Lu Ll Lu Ll Lu Ll Lu Ll Lu Ll Lu Ll Lu Ll Lu Ll Lu Ll Lu Ll Lu Ll Lu Ll Lu",
   "Ll Lu Ll Lu Ll Lu Ll Lu Ll Lu Ll Lu Ll Lu Ll Lu Ll Lu Ll Lu Ll Lu Ll Lu Ll Lu Ll Lu Ll",
   "Lu Ll Lu Ll Lu Ll Lu Ll Lu Ll Lu Ll Lu Ll Lu Ll Lu Ll Lu Ll Lu Ll Lu Ll Lu Ll Lu Ll:2",
   "So:6 Lu Ll Lu Ll Mn:3 Lu Ll Cn:5 Po:4 No Po:2 Ll:12 Cn Ll Cn:5 Ll Cn:2 Lo:1k Cn:7 Lm",
   "Po Cn:e Mn Lo:n Cn:9 Lo:7 Cn Lo:7 Cn Lo:7 Cn Lo:7 Cn Lo:7 Cn Lo:7 Cn Lo:7 Cn Lo:7 Cn",
   "Mn:w Po:2 Pi Pf Pi Pf Po:3 Pi Pf Po Pi Pf Po:9 Pd Po:2 Pd Po Pi Pf Po:2 Pi Pf Ps Pe Ps",
   "Pe Ps Pe Ps Pe Po:5 Lm Po:a Pd:2 Po:4 Pd Po Ps Po:d So:2 Po:3 Ps Pe Ps Pe Ps Pe Ps Pe",
   "Pd Cn:y So:q Cn So:2h Cn:c So:5y Cn:q So:g Zs Po:3 So Lm Lo Nl Ps Pe Ps Pe Ps Pe Ps Pe",
   "Ps Pe So:2 Ps Pe Ps Pe Ps Pe Ps Pe Pd Ps Pe:2 So Nl:9 Mn:4 Mc:2 Pd Lm:5 So:2 Nl:3 Lm",
   "Lo Po So:2 Cn Lo:2e Cn:2 Mn:2 Sk:2 Lm:2 Lo Pd Lo:2i Po Lm:3 Lo Cn:5 Lo:17 Cn Lo:2m Cn",
   "So:2 No:4 So:a Lo:w So:12 Cn:9 So Lo:g So:v Cn No:a So:u No:8 So No:f So:w No:a So:13",
   "No:f So:8w Lo:534 So:1s Lo:g7p Lm Lo:vr Cn:3 So:1j Cn:9 Lo:14 Lm:6 Po:2 Lo:7g Lm Po:3",
   "Lo:g Nd:a Lo:2 Cn:k Lu Ll Lu Ll Lu Ll Lu Ll Lu Ll Lu Ll Lu Ll Lu Ll Lu Ll Lu Ll Lu Ll",
   "Lu Ll Lu Ll Lu Ll Lu Ll Lu Ll Lu Ll Lu Ll Lu Ll Lu Ll Lu Ll Lu Ll Lu Ll Lo Mn Me:3 Po",
   "Mn:a Po Lm Lu Ll Lu Ll Lu Ll Lu Ll Lu Ll Lu Ll Lu Ll Lu Ll Lu Ll Lu Ll Lu Ll Lu Ll Lu",
   "Ll Lu Ll Lm:2 Mn:2 Lo:1y Nl:a Mn:2 Po:6 Cn:8 Sk:n Lm:9 Sk:2 Lu Ll Lu Ll Lu Ll Lu Ll Lu",
   "Ll Lu Ll Lu Ll:3 Lu Ll Lu Ll Lu Ll Lu Ll Lu Ll Lu Ll Lu Ll Lu Ll Lu Ll Lu Ll Lu Ll Lu",
   "Ll Lu Ll Lu Ll Lu Ll Lu Ll Lu Ll Lu Ll Lu Ll Lu Ll Lu Ll Lu Ll Lu Ll Lu Ll Lu Ll Lu Ll",
   "Lu Ll Lu Ll Lu Ll Lu Ll Lu Ll Lm Ll:8 Lu Ll Lu Ll Lu:2 Ll Lu Ll Lu Ll Lu Ll Lu Ll Lm",
   "Sk:2 Lu Ll Lu Ll Lo Lu Ll Lu Ll:3 Lu Ll Lu Ll Lu Ll Lu Ll Lu Ll Lu Ll Lu Ll Lu Ll Lu",
   "Ll Lu Ll Lu:5 Ll Lu:5 Ll Lu Ll Lu Ll Lu Ll Lu Ll Lu Ll Lu Ll Lu Ll Lu:4 Ll Lu Ll Lu:2",
   "Ll Cn:2 Lu Ll Cn Ll Cn Ll Lu Ll Lu Ll Lu Ll Lu Cn:l Lm:3 Lu Ll Lo Lm:2 Ll Lo:7 Mn Lo:3",
   "Mn Lo:4 Mn Lo:n Mc:2 Mn:2 Mc So:4 Mn Cn:3 No:6 So:2 Sc So Cn:6 Lo:1g Po:4 Cn:8 Mc:2",
   "Lo:1e Mc:g Mn:2 Cn:8 Po:2 Nd:a Cn:6 Mn:i Lo:6 Po:3 Lo Po Lo:2 Mn Nd:a Lo:s Mn:8 Po:2",
   "Lo:n Mn:b Mc:2 Cn:b Po Lo:t Cn:3 Mn:3 Mc Lo:1b Mn Mc:2 Mn:4 Mc:2 Mn:2 Mc:3 Po:d Cn Lm",
   "Nd:a Cn:4 Po:2 Lo:5 Mn Lm Lo:9 Nd:a Lo:5 Cn Lo:15 Mn:6 Mc:2 Mn:2 Mc:2 Mn:2 Cn:9 Lo:3",
   "Mn Lo:8 Mn Mc Cn:2 Nd:a Cn:2 Po:4 Lo:g Lm Lo:6 So:3 Lo Mc Mn Mc Lo:1e Mn Lo Mn:3 Lo:2",
   "Mn:2 Lo:5 Mn:2 Lo Mn Lo Cn:o Lo:2 Lm Po:2 Lo:b Mc Mn:2 Mc:2 Po:2 Lo Lm:2 Mc Mn Cn:a",
   "Lo:6 Cn:2 Lo:6 Cn:2 Lo:6 Cn:9 Lo:7 Cn Lo:7 Cn Ll:17 Sk Lm:4 Ll:9 Lm Sk:2 Cn:4 Ll:28",
   "Lo:z Mc:2 Mn Mc:2 Mn Mc:2 Po Mc Mn Cn:2 Nd:a Cn:6 Lo:8mc Cn:c Lo:n Cn:4 Lo:1d Cn:4",
   "Cs:1kw Co:4xs Lo:a6 Cn:2 Lo:2y Cn:12 Ll:7 Cn:c Ll:5 Cn:5 Lo Mn Lo:a Sm Lo:d Cn Lo:5 Cn",
   "Lo Cn Lo:2 Cn Lo:2 Cn Lo:30 Sk:h Cn:g Lo:a3 Pe Ps So:g Lo:1s Cn:2 Lo:1i Cn:7 So Cn:w",
   "Lo:c Sc So:3 Mn:g Po:7 Ps Pe Po Cn:6 Mn:g Po Pd:2 Pc:2 Ps Pe Ps Pe Ps Pe Ps Pe Ps Pe",
   "Ps Pe Ps Pe Ps Pe Po:2 Ps Pe Po:4 Pc:3 Po:3 Cn Po:4 Pd Ps Pe Ps Pe Ps Pe Po:3 Sm Pd",
   "Sm:3 Cn Po Sc Po:2 Cn:4 Lo:5 Cn Lo:3r Cn:2 Cf Cn Po:3 Sc Po:3 Ps Pe Po Sm Po Pd Po:2",
   "Nd:a Po:2 Sm:3 Po:2 Lu:q Ps Po Pe Sk Pc Sk Ll:q Ps Sm Pe Sm Ps Pe Po Ps Pe Po:2 Lo:a",
   "Lm Lo:19 Lm:2 Lo:v Cn:3 Lo:6 Cn:2 Lo:6 Cn:2 Lo:6 Cn:2 Lo:3 Cn:3 Sc:2 Sm Sk So Sc:2 Cn",
   "So Sm:4 So:2 Cn:a Cf:3 So:2 Cn:2 Lo:c Cn Lo:q Cn Lo:j Cn Lo:2 Cn Lo:f Cn:2 Lo:e Cn:y",
   "Lo:3f Cn:5 Po:3 Cn:4 No:19 Cn:3 So:9 Nl:1h No:4 So:h No:2 So:3 Cn So:d Cn:3 So Cn:1b",
   "So:19 Mn Cn:3m Lo:t Cn:3 Lo:1d Cn:f Mn No:r Cn:4 Lo:w No:4 Cn:9 Lo:k Nl Lo:8 Nl Cn:5",
   "Lo:12 Mn:5 Cn:5 Lo:u Cn Po Lo:10 Cn:4 Lo:8 Po Nl:5 Cn:16 Lu:14 Ll:14 Lo:26 Cn:2 Nd:a",
   "Cn:6 Lu:10 Cn:4 Ll:10 Cn:4 Lo:14 Cn:8 Lo:1g Cn:b Po Lu:b Cn Lu:f Cn Lu:7 Cn Lu:2 Cn",
   "Ll:b Cn Ll:f Cn Ll:7 Cn Ll:2 Cn:3 Lo:1g Cn:c Lo:8n Cn:9 Lo:m Cn:a Lo:8 Cn:o Lm:6 Cn",
   "Lm:16 Cn Lm:9 Cn:1x Lo:6 Cn:2 Lo Cn Lo:18 Cn Lo:2 Cn:3 Lo Cn:2 Lo:n Cn Po No:8 Lo:n",
   "So:2 No:7 Lo:v Cn:8 No:9 Cn:1c Lo:j Cn Lo:2 Cn:5 No:5 Lo:m No:6 Cn:3 Po Lo:q Cn:5 Po",
   "Cn:1s Lo:1k Cn:4 No:2 Lo:2 No:g Cn:2 No:1a Lo Mn:3 Cn Mn:2 Cn:5 Mn:4 Lo:4 Cn Lo:3 Cn",
   "Lo:t Cn:2 Mn:3 Cn:4 Mn No:9 Cn:7 Po:9 Cn:7 Lo:t No:2 Po Lo:t No:3 Cn:w Lo:8 So Lo:s",
   "Mn:2 Cn:4 No:5 Po:7 Cn:9 Lo:1i Cn:3 Po:7 Lo:m Cn:2 No:8 Lo:j Cn:5 No:8 Lo:i Cn:7 Po:4",
   "Cn:c No:7 Cn:28 Lo:21 Cn:1j Lu:1f Cn:d Ll:1f Cn:7 No:6 Lo:10 Mn:4 Cn:8 Nd:a Cn:6 Nd:a",
   "Lo:4 Lm Lo Lu:m Cn:3 Mn:5 Pd Lm Ll:m Cn:8 Sm:2 Cn:5s No:v Cn Lo:16 Cn Mn:2 Pd Cn:2",
   "Lo:2 Cn:g Lo:3 Cn:1j Mn:4 Lo:t No:a Lo Cn:8 Lo:m Mn:b No:4 Po:5 Cn:m Lo:i Mn:4 Po:4",
   "Cn:12 Lo:l No:7 Cn:k Lo:n Cn:9 Mc Mn Mc Lo:1h Mn:f Po:7 Cn:4 No:k Nd:a Mn Lo:2 Mn:2 Lo",
   "Cn:9 Mn:3 Mc Lo:19 Mc:3 Mn:4 Mc:2 Mn:2 Po:2 Cf Po:4 Mn Cn:a Cf Cn:2 Lo:p Cn:7 Nd:a",
   "Cn:6 Mn:3 Lo:10 Mn:5 Mc Mn:8 Cn Nd:a Po:4 Lo Mc:2 Lo Cn:8 Lo:z Mn Po:2 Lo Cn:9 Mn:2 Mc",
   "Lo:1c Mc:3 Mn:9 Mc:2 Lo:4 Po:4 Mn:4 Po Mc Mn Nd:a Lo Po Lo Po:3 Cn No:k Cn:b Lo:i Cn",
   "Lo:p Mc:3 Mn:3 Mc:2 Mn Mc Mn:2 Po:6 Mn Lo:2 Mn Cn:1q Lo:7 Cn Lo Cn Lo:4 Cn Lo:f Cn",
   "Lo:a Po Cn:6 Lo:1b Mn Mc:3 Mn:8 Cn:5 Nd:a Cn:6 Mn:2 Mc:2 Cn Lo:8 Cn:2 Lo:2 Cn:2 Lo:m",
   "Cn Lo:7 Cn Lo:2 Cn Lo:5 Cn Mn:2 Lo Mc:2 Mn Mc:4 Cn:2 Mc:2 Cn:2 Mc:3 Cn:2 Lo Cn:6 Mc",
   "Cn:5 Lo:5 Mc:2 Cn:2 Mn:7 Cn:3 Mn:5 Cn:b Lo:a Cn Lo Cn:2 Lo Cn Lo:12 Cn Lo Mc:3 Mn:6 Cn",
   "Mc Cn:2 Mc Cn Mc:4 Cn Mc:2 Mn Mc Mn Lo Mn Lo Po:2 Cn Po:2 Cn:8 Mn:2 Cn:t Lo:1h Mc:3",
   "Mn:8 Mc:2 Mn:3 Mc Mn Lo:4 Po:5 Nd:a Po:2 Cn Po Mn Lo:3 Cn:u Lo:1c Mc:3 Mn:6 Mc Mn Mc:4",
   "Mn:2 Mc Mn:2 Lo:2 Po Lo Cn:8 Nd:a Cn:4m Lo:1b Mc:3 Mn:4 Cn:2 Mc:4 Mn:2 Mc Mn:2 Po:n",
   "Lo:4 Mn:2 Cn:y Lo:1c Mc:3 Mn:8 Mc:2 Mn Mc Mn:2 Po:3 Lo Cn:b Nd:a Cn:6 Po:d Cn:j Lo:17",
   "Mn Mc Mn Mc:2 Mn:6 Mc Mn Lo Po Cn:6 Nd:a Cn:6 Nd:k Cn:s Lo:r Cn:2 Mn Mc Mn Mc:2 Mn:4",
   "Mc Mn:5 Cn:4 Nd:a No:2 Po:3 So Lo:7 Cn:55 Lo:18 Mc:3 Mn:9 Mc Mn:2 Po Cn:2s Lu:w Ll:w",
   "Nd:a No:9 Cn:c Lo:8 Cn:2 Lo Cn:2 Lo:8 Cn Lo:2 Cn Lo:o Mc:6 Cn Mc:2 Cn:2 Mn:2 Mc Mn Lo",
   "Mc Lo Mc Mn Po:3 Cn:9 Nd:a Cn:1y Lo:8 Cn:2 Lo:13 Mc:3 Mn:4 Cn:2 Mn:2 Mc:4 Mn Lo Po Lo",
   "Mc Cn:r Lo Mn:a Lo:14 Mn:6 Mc Lo Mn:4 Po:8 Mn Cn:8 Lo Mn:6 Mc:2 Mn:3 Lo:1a Mn:d Mc",
   "Mn:2 Po:3 Lo Po:5 Cn:d Lo:21 Cn:7 Po:a Cn:52 Lo:x Po Cn:e Nd:a Cn:6 Lo:9 Cn Lo:11 Mc",
   "Mn:7 Cn Mn:6 Mc Mn Lo Po:5 Cn:a Nd:a No:j Cn:3 Po:2 Lo:u Cn:2 Mn:m Cn Mc Mn:7 Mc Mn:2",
   "Mc Mn:2 Cn:21 Lo:7 Cn Lo:2 Cn Lo:12 Mn:6 Cn:3 Mn Cn Mn:2 Cn Mn:7 Lo Mn Cn:8 Nd:a Cn:6",
   "Lo:6 Cn Lo:2 Cn Lo:w Mc:5 Cn Mn:2 Cn Mc:2 Mn Mc Mn Lo Cn:7 Nd:a Cn:8m Lo:j Mn:2 Mc:2",
   "Po:2 Cn:7 Mn:2 Lo Mc Lo:d Cn Lo:y Mc:2 Mn:5 Cn:3 Mc:2 Mn Mc Mn Po:d Nd:a Mn Cn:2d Lo",
   "Cn:f No:l So:8 Sc:4 So:h Cn:d Po Lo:pm Cn:2u Nl:33 Cn Po:5 Cn:b Lo:5g Cn:218 Lo:2p",
   "Po:2 Cn:d Lo:ts Cf:g Mn Lo:6 Mn:f Cn:a Lo:32z Cn:5 Lo:g7 Cn:5a1 Lo:u Mn:c Mc:3 Mn:3",
   "Nd:a Cn:1c6 Lo:ft Cn:7 Lo:v Cn Nd:a Cn:4 Po:2 Lo:27 Cn Nd:a Cn:6 Lo:u Cn:2 Mn:5 Po",
   "Cn:a Lo:1c Mn:7 Po:5 So:4 Lm:4 Po So Cn:a Nd:a Cn No:7 Cn Lo:l Cn:5 Lo:j Cn:c0 Lm:3",
   "Lo:14 Lm:2 Po:3 Nd:a Cn:5i Lu:w Ll:w No:n Po:4 Cn:2t Lo:23 Cn:4 Mn Lo Mc:1j Cn:7 Mn:4",
   "Lm:d Cn:1s Lm:2 Po Lm Mn Cn:b Mc:2 Cn:e Lo:4qg Cn:8 Lo:ye Cn:15 Lo:a Cn:6w7 Lm:4 Cn",
   "Lm:7 Cn Lm:2 Cn Lo:83 Cn:f Lo Cn:t Lo:3 Cn:2 Lo Cn:e Lo:4 Cn:8 Lo:b0 Cn:1s4 Lo:2z Cn:5",
   "Lo:d Cn:3 Lo:9 Cn:7 Lo:a Cn:2 So Mn:2 Po Cf:4 Cn:318 So:6o Nd:a Cn:6 So:c4 Cn:24 Mn:1a",
   "Cn:2 Mn:n Cn:9 So:38 Cn:1o So:6u Cn:a So:13 Cn:2 So:1o Mc:2 Mn:3 So:3 Mc:6 Cf:8 Mn:8",
   "So:2 Mn:7 So:u Mn:4 So:1p Cn:l So:1u Mn:3 So Cn:3e No:k Cn:c No:k Cn:c So:2f Cn:9 No:p",
   "Cn:3r Lu:q Ll:q Lu:q Ll:7 Cn Ll:i Lu:q Ll:q Lu Cn Lu:2 Cn:2 Lu Cn:2 Lu:2 Cn:2 Lu:4 Cn",
   "Lu:8 Ll:4 Cn Ll Cn Ll:7 Cn Ll:b Lu:q Ll:q Lu:2 Cn Lu:4 Cn:2 Lu:8 Cn Lu:7 Cn Ll:q Lu:2",
   "Cn Lu:4 Cn Lu:5 Cn Lu Cn:3 Lu:7 Cn Ll:q Lu:q Ll:q Lu:q Ll:q Lu:q Ll:q Lu:q Ll:q Lu:q",
   "Ll:q Lu:q Ll:s Cn:2 Lu:p Sm Ll:p Sm Ll:6 Lu:p Sm Ll:p Sm Ll:6 Lu:p Sm Ll:p Sm Ll:6",
   "Lu:p Sm Ll:p Sm Ll:6 Lu:p Sm Ll:p Sm Ll:6 Lu Ll Cn:2 Nd:1e So:e8 Mn:1j So:4 Mn:1e So:8",
   "Mn So:e Mn So:2 Po:5 Cn:f Mn:5 Cn Mn:f Cn:uo Ll:a Lo Ll:k Cn:6 Ll:6 Cn:5x Mn:7 Cn Mn:h",
   "Cn:2 Mn:7 Cn Mn:2 Cn Mn:5 Cn:5 Lm:1q Cn:x Mn Cn:34 Lo:19 Cn:3 Mn:7 Lm:7 Cn:2 Nd:a Cn:4",
   "Lo So Cn:8w Lo:u Mn Cn:h Lo:18 Mn:4 Nd:a Cn:5 Sc Cn:cw Lo:r Lm Mn:4 Nd:a Cn:5y Lo:u",
   "Mn:2 Lo Nd:a Cn:4 Po Cn:dc Lo:7 Cn Lo:4 Cn Lo:2 Cn Lo:f Cn Lo:5h Cn:2 No:9 Mn:7 Cn:15",
   "Lu:y Ll:y Mn:7 Lm Cn:4 Nd:a Cn:4 Po:2 Cn:lt No:1n So No:3 Sc No:4 Cn:24 No:19 So No:f",
   "Cn:5e Lo:4 Cn Lo:r Cn Lo:2 Cn Lo Cn:2 Lo Cn Lo:a Cn Lo:4 Cn Lo Cn Lo Cn:6 Lo Cn:4 Lo",
   "Cn Lo Cn Lo Cn Lo:3 Cn Lo:2 Cn Lo Cn:2 Lo Cn Lo Cn Lo Cn Lo Cn Lo Cn Lo:2 Cn Lo Cn:2",
   "Lo:4 Cn Lo:7 Cn Lo:4 Cn Lo:4 Cn Lo Cn Lo:a Cn Lo:h Cn:5 Lo:3 Cn Lo:5 Cn Lo:h Cn:1g",
   "Sm:2 Cn:7i So:18 Cn:4 So:2s Cn:c So:f Cn:2 So:f Cn So:f Cn So:11 Cn:a No:d So:4h Cn:1k",
   "So:t Cn:d So:18 Cn:4 So:9 Cn:7 So:2 Cn:e So:6 Cn:4a So:6z Sk:5 So:k8 Cn:4 So:h Cn:3",
   "So:d Cn:3 So:3b Cn:4 So:2n Cn:6 So:c Cn:4 So Cn:f So:c Cn:4 So:1k Cn:8 So:a Cn:6 So:14",
   "Cn:8 So:u Cn:2 So:c Cn:4 So:2 Cn:1q So:9g Cn:c So:e Cn:2 So:d Cn:3 So:a Cn:5 So:1k",
   "Cn:7 So:f Cn:2 So:b Cn:6 So:9 Cn:7 So:43 Cn So:2k Nd:a Cn:sm Lo:wyo Cn:w Lo:37e Cn:6",
   "Lo:66 Cn:2 Lo:4g2 Cn:e Lo:5rl Cn:f Lo:ha Cn:1wi Lo:f2 Cn:15u Lo:3t7 Cn:5 Lo:38g",
   "Cn:f975 Cf Cn:u Cf:2o Cn:3k Mn:6o Cn:1e6o Co:1eke Cn:2 Co:1eke Cn:2"]

/-- The characters in one of some categories. -/
def ofCategories (categories : List String) : CodePoints := .ofSlices categories categorySlices

/-- The names of the categories and of their groups, and the categories meant. -/
def categoryNames : List (List String × List String) :=
  [(["lu", "uppercaseletter"], ["Lu"]), (["ll", "lowercaseletter"], ["Ll"]),
    (["lt", "titlecaseletter"], ["Lt"]), (["lm", "modifierletter"], ["Lm"]),
    (["lo", "otherletter"], ["Lo"]), (["mn", "nonspacingmark"], ["Mn"]),
    (["mc", "spacingmark"], ["Mc"]), (["me", "enclosingmark"], ["Me"]),
    (["nd", "decimalnumber", "digit"], ["Nd"]), (["nl", "letternumber"], ["Nl"]),
    (["no", "othernumber"], ["No"]), (["pc", "connectorpunctuation"], ["Pc"]),
    (["pd", "dashpunctuation"], ["Pd"]), (["ps", "openpunctuation"], ["Ps"]),
    (["pe", "closepunctuation"], ["Pe"]), (["pi", "initialpunctuation"], ["Pi"]),
    (["pf", "finalpunctuation"], ["Pf"]), (["po", "otherpunctuation"], ["Po"]),
    (["sm", "mathsymbol"], ["Sm"]), (["sc", "currencysymbol"], ["Sc"]),
    (["sk", "modifiersymbol"], ["Sk"]), (["so", "othersymbol"], ["So"]),
    (["zs", "spaceseparator"], ["Zs"]), (["zl", "lineseparator"], ["Zl"]),
    (["zp", "paragraphseparator"], ["Zp"]), (["cc", "control", "cntrl"], ["Cc"]),
    (["cf", "format"], ["Cf"]), (["co", "privateuse"], ["Co"]), (["cn", "unassigned"], ["Cn"]),
    (["l", "letter"], ["Lu", "Ll", "Lt", "Lm", "Lo"]), (["lc", "casedletter"], ["Lu", "Ll", "Lt"]),
    (["m", "mark", "combiningmark"], ["Mn", "Mc", "Me"]), (["n", "number"], ["Nd", "Nl", "No"]),
    (["p", "punctuation", "punct"], ["Pc", "Pd", "Ps", "Pe", "Pi", "Pf", "Po"]),
    (["s", "symbol"], ["Sm", "Sc", "Sk", "So"]), (["z", "separator"], ["Zs", "Zl", "Zp"]),
    (["c", "other"], ["Cc", "Cf", "Co", "Cn"]),
    (["assigned"],
      ["Lu", "Ll", "Lt", "Lm", "Lo", "Mn", "Mc", "Me", "Nd", "Nl", "No", "Pc", "Pd", "Ps",
      "Pe", "Pi", "Pf", "Po", "Sm", "Sc", "Sk", "So", "Zs", "Zl", "Zp", "Cc", "Cf", "Co"])]

/-- The categories behind a name in lower case without blanks, hyphens and underscores. -/
def categories? (name : String) : Option (List String) :=
  (categoryNames.find? fun (names, _) => names.contains name).map (·.2)

end Pattern

end TableMapper
