import TaggedContent.Pattern.Unicode.RunLength

namespace TaggedContent
namespace Pattern
namespace Unicode

/-!
# Text boundaries

The classes of code points by which grapheme clusters, words and sentences are
delimited.  A dash marks the code points that no rule singles out.
-/

def graphemeClusterBreaks : Partition :=
  Partition.read
    ["10CN 1LF 2CN 1CR 18CN 95- 33CN 13- 1CN 594- 112EX 275- 7EX 263- 45EX 1- 1EX 1- 2EX 1- 2EX",
     "1- 1EX 56- 6PP 10- 11EX 1- 1CN 46- 21EX 16- 1EX 101- 7EX 1PP 1- 6EX 2- 2EX 1- 4EX 33- 1PP",
     "1- 1EX 30- 27EX 91- 11EX 58- 9EX 9- 1EX 24- 4EX 1- 9EX 1- 3EX 1- 5EX 43- 3EX 52- 2PP 6-",
     "8EX 42- 24EX 1PP 32EX 1SM 54- 1EX 1SM 1EX 1- 3SM 8EX 4SM 1EX 2SM 1- 7EX 10- 2EX 29- 1EX",
     "2SM 56- 1EX 1- 1EX 2SM 4EX 2- 2SM 2- 2SM 1EX 9- 1EX 10- 2EX 26- 1EX 2- 2EX 1SM 56- 1EX 1-",
     "3SM 2EX 4- 2EX 2- 3EX 3- 1EX 30- 2EX 3- 1EX 11- 2EX 1SM 56- 1EX 1- 3SM 5EX 1- 2EX 1SM 1-",
     "2SM 1EX 20- 2EX 22- 6EX 1- 1EX 2SM 56- 1EX 1- 2EX 1SM 4EX 2- 2SM 2- 2SM 1EX 7- 3EX 10- 2EX",
     "30- 1EX 59- 1EX 1SM 1EX 2SM 3- 3SM 1- 3SM 1EX 9- 1EX 40- 1EX 3SM 1EX 55- 1EX 1- 3EX 4SM 1-",
     "3EX 1- 4EX 7- 2EX 11- 2EX 29- 1EX 2SM 56- 1EX 1- 1SM 1EX 2SM 1EX 2SM 1- 1EX 2SM 1- 2SM 2EX",
     "7- 2EX 11- 2EX 15- 1SM 12- 2EX 2SM 55- 2EX 1- 1EX 2SM 4EX 1- 3SM 1- 3SM 1EX 1PP 8- 1EX 10-",
     "2EX 29- 1EX 2SM 70- 1EX 4- 1EX 2SM 3EX 1- 1EX 1- 7SM 1EX 18- 2SM 61- 1EX 1- 1SM 7EX 12-",
     "8EX 98- 1EX 1- 1SM 9EX 11- 7EX 73- 2EX 27- 1EX 1- 1EX 1- 1EX 4- 2SM 49- 14EX 1SM 5EX 1-",
     "2EX 5- 11EX 1- 36EX 9- 1EX 102- 4EX 1SM 6EX 1- 2EX 2SM 2EX 23- 2SM 2EX 4- 3EX 16- 4EX 13-",
     "1EX 1- 1SM 2EX 6- 1EX 15- 1EX 98- 96L 72V 88T 349- 3EX 946- 3EX 1SM 28- 2EX 1SM 29- 2EX",
     "30- 2EX 64- 2EX 1SM 7EX 8SM 1EX 2SM 11EX 9- 1EX 45- 3EX 1CN 1EX 117- 2EX 34- 1EX 118- 3EX",
     "4SM 2EX 3SM 4- 2SM 1EX 6SM 3EX 219- 2EX 2SM 1EX 57- 1SM 1EX 1SM 7EX 1- 1EX 1- 1EX 2- 8EX",
     "6SM 10EX 2- 1EX 48- 31EX 49- 4EX 1SM 47- 7EX 1SM 1EX 5SM 1EX 2SM 38- 9EX 12- 2EX 1SM 30-",
     "1SM 4EX 2SM 2EX 1SM 3EX 56- 1EX 1SM 2EX 3SM 1EX 1SM 3EX 2SM 48- 8SM 8EX 2SM 2EX 152- 3EX",
     "1- 13EX 1SM 7EX 4- 1EX 6- 1EX 2- 1SM 2EX 198- 64EX 523- 1CN 1EX 1ZWJ 2CN 24- 7CN 49- 16CN",
     "96- 33EX 3070- 3EX 141- 1EX 96- 32EX 554- 6EX 105- 2EX 30164- 4EX 1- 10EX 32- 2EX 80- 2EX",
     "272- 1EX 3- 1EX 4- 1EX 23- 2SM 2EX 1SM 4- 1EX 83- 2SM 50- 16SM 2EX 26- 18EX 13- 1EX 38-",
     "8EX 25- 11EX 2SM 12- 29L 3- 3EX 1SM 47- 1EX 2SM 4EX 2SM 2EX 3SM 36- 1EX 67- 6EX 2SM 2EX",
     "2SM 2EX 12- 1EX 8- 1EX 1SM 46- 1EX 51- 1EX 1- 3EX 2- 2EX 5- 2EX 1- 1EX 41- 1SM 2EX 2SM 5-",
     "1SM 1EX 236- 2SM 1EX 2SM 1EX 2SM 1- 1SM 1EX 18- 1LV 27LVT 1LV 27LVT 1LV 27LVT 1LV 27LVT",
     "1LV 27LVT 1LV 27LVT 1LV 27LVT 1LV 27LVT 1LV 27LVT 1LV 27LVT 1LV 27LVT 1LV 27LVT 1LV 27LVT",
     "1LV 27LVT 1LV 27LVT 1LV 27LVT 1LV 27LVT 1LV 27LVT 1LV 27LVT 1LV 27LVT 1LV 27LVT 1LV 27LVT",
     "1LV 27LVT 1LV 27LVT 1LV 27LVT 1LV 27LVT 1LV 27LVT 1LV 27LVT 1LV 27LVT 1LV 27LVT 1LV 27LVT",
     "1LV 27LVT 1LV 27LVT 1LV 27LVT 1LV 27LVT 1LV 27LVT 1LV 27LVT 1LV 27LVT 1LV 27LVT 1LV 27LVT",
     "1LV 27LVT 1LV 27LVT 1LV 27LVT 1LV 27LVT 1LV 27LVT 1LV 27LVT 1LV 27LVT 1LV 27LVT 1LV 27LVT",
     "1LV 27LVT 1LV 27LVT 1LV 27LVT 1LV 27LVT 1LV 27LVT 1LV 27LVT 1LV 27LVT 1LV 27LVT 1LV 27LVT",
     "1LV 27LVT 1LV 27LVT 1LV 27LVT 1LV 27LVT 1LV 27LVT 1LV 27LVT 1LV 27LVT 1LV 27LVT 1LV 27LVT",
     "1LV 27LVT 1LV 27LVT 1LV 27LVT 1LV 27LVT 1LV 27LVT 1LV 27LVT 1LV 27LVT 1LV 27LVT 1LV 27LVT",
     "1LV 27LVT 1LV 27LVT 1LV 27LVT 1LV 27LVT 1LV 27LVT 1LV 27LVT 1LV 27LVT 1LV 27LVT 1LV 27LVT",
     "1LV 27LVT 1LV 27LVT 1LV 27LVT 1LV 27LVT 1LV 27LVT 1LV 27LVT 1LV 27LVT 1LV 27LVT 1LV 27LVT",
     "1LV 27LVT 1LV 27LVT 1LV 27LVT 1LV 27LVT 1LV 27LVT 1LV 27LVT 1LV 27LVT 1LV 27LVT 1LV 27LVT",
     "1LV 27LVT 1LV 27LVT 1LV 27LVT 1LV 27LVT 1LV 27LVT 1LV 27LVT 1LV 27LVT 1LV 27LVT 1LV 27LVT",
     "1LV 27LVT 1LV 27LVT 1LV 27LVT 1LV 27LVT 1LV 27LVT 1LV 27LVT 1LV 27LVT 1LV 27LVT 1LV 27LVT",
     "1LV 27LVT 1LV 27LVT 1LV 27LVT 1LV 27LVT 1LV 27LVT 1LV 27LVT 1LV 27LVT 1LV 27LVT 1LV 27LVT",
     "1LV 27LVT 1LV 27LVT 1LV 27LVT 1LV 27LVT 1LV 27LVT 1LV 27LVT 1LV 27LVT 1LV 27LVT 1LV 27LVT",
     "1LV 27LVT 1LV 27LVT 1LV 27LVT 1LV 27LVT 1LV 27LVT 1LV 27LVT 1LV 27LVT 1LV 27LVT 1LV 27LVT",
     "1LV 27LVT 1LV 27LVT 1LV 27LVT 1LV 27LVT 1LV 27LVT 1LV 27LVT 1LV 27LVT 1LV 27LVT 1LV 27LVT",
     "1LV 27LVT 1LV 27LVT 1LV 27LVT 1LV 27LVT 1LV 27LVT 1LV 27LVT 1LV 27LVT 1LV 27LVT 1LV 27LVT",
     "1LV 27LVT 1LV 27LVT 1LV 27LVT 1LV 27LVT 1LV 27LVT 1LV 27LVT 1LV 27LVT 1LV 27LVT 1LV 27LVT",
     "1LV 27LVT 1LV 27LVT 1LV 27LVT 1LV 27LVT 1LV 27LVT 1LV 27LVT 1LV 27LVT 1LV 27LVT 1LV 27LVT",
     "1LV 27LVT 1LV 27LVT 1LV 27LVT 1LV 27LVT 1LV 27LVT 1LV 27LVT 1LV 27LVT 1LV 27LVT 1LV 27LVT",
     "1LV 27LVT 1LV 27LVT 1LV 27LVT 1LV 27LVT 1LV 27LVT 1LV 27LVT 1LV 27LVT 1LV 27LVT 1LV 27LVT",
     "1LV 27LVT 1LV 27LVT 1LV 27LVT 1LV 27LVT 1LV 27LVT 1LV 27LVT 1LV 27LVT 1LV 27LVT 1LV 27LVT",
     "1LV 27LVT 1LV 27LVT 1LV 27LVT 1LV 27LVT 1LV 27LVT 1LV 27LVT 1LV 27LVT 1LV 27LVT 1LV 27LVT",
     "1LV 27LVT 1LV 27LVT 1LV 27LVT 1LV 27LVT 1LV 27LVT 1LV 27LVT 1LV 27LVT 1LV 27LVT 1LV 27LVT",
     "1LV 27LVT 1LV 27LVT 1LV 27LVT 1LV 27LVT 1LV 27LVT 1LV 27LVT 1LV 27LVT 1LV 27LVT 1LV 27LVT",
     "1LV 27LVT 1LV 27LVT 1LV 27LVT 1LV 27LVT 1LV 27LVT 1LV 27LVT 1LV 27LVT 1LV 27LVT 1LV 27LVT",
     "1LV 27LVT 1LV 27LVT 1LV 27LVT 1LV 27LVT 1LV 27LVT 1LV 27LVT 1LV 27LVT 1LV 27LVT 1LV 27LVT",
     "1LV 27LVT 1LV 27LVT 1LV 27LVT 1LV 27LVT 1LV 27LVT 1LV 27LVT 1LV 27LVT 1LV 27LVT 1LV 27LVT",
     "1LV 27LVT 1LV 27LVT 1LV 27LVT 1LV 27LVT 1LV 27LVT 1LV 27LVT 1LV 27LVT 1LV 27LVT 1LV 27LVT",
     "1LV 27LVT 1LV 27LVT 1LV 27LVT 1LV 27LVT 1LV 27LVT 1LV 27LVT 1LV 27LVT 1LV 27LVT 1LV 27LVT",
     "1LV 27LVT 1LV 27LVT 1LV 27LVT 1LV 27LVT 1LV 27LVT 1LV 27LVT 1LV 27LVT 1LV 27LVT 1LV 27LVT",
     "1LV 27LVT 1LV 27LVT 1LV 27LVT 1LV 27LVT 1LV 27LVT 1LV 27LVT 1LV 27LVT 1LV 27LVT 1LV 27LVT",
     "1LV 27LVT 1LV 27LVT 1LV 27LVT 1LV 27LVT 1LV 27LVT 1LV 27LVT 1LV 27LVT 1LV 27LVT 1LV 27LVT",
     "1LV 27LVT 1LV 27LVT 1LV 27LVT 1LV 27LVT 1LV 27LVT 1LV 27LVT 1LV 27LVT 1LV 27LVT 1LV 27LVT",
     "1LV 27LVT 1LV 27LVT 1LV 27LVT 1LV 27LVT 1LV 27LVT 1LV 27LVT 1LV 27LVT 1LV 27LVT 1LV 27LVT",
     "1LV 27LVT 1LV 27LVT 1LV 27LVT 1LV 27LVT 1LV 27LVT 1LV 27LVT 1LV 27LVT 1LV 27LVT 1LV 27LVT",
     "1LV 27LVT 1LV 27LVT 1LV 27LVT 1LV 27LVT 1LV 27LVT 1LV 27LVT 1LV 27LVT 1LV 27LVT 1LV 27LVT",
     "1LV 27LVT 1LV 27LVT 1LV 27LVT 1LV 27LVT 1LV 27LVT 1LV 27LVT 1LV 27LVT 1LV 27LVT 1LV 27LVT",
     "1LV 27LVT 1LV 27LVT 1LV 27LVT 1LV 27LVT 1LV 27LVT 1LV 27LVT 1LV 27LVT 1LV 27LVT 1LV 27LVT",
     "1LV 27LVT 1LV 27LVT 1LV 27LVT 1LV 27LVT 1LV 27LVT 1LV 27LVT 1LV 27LVT 1LV 27LVT 1LV 27LVT",
     "1LV 27LVT 1LV 27LVT 1LV 27LVT 1LV 27LVT 1LV 27LVT 1LV 27LVT 1LV 27LVT 1LV 27LVT 1LV 27LVT",
     "1LV 27LVT 1LV 27LVT 1LV 27LVT 1LV 27LVT 1LV 27LVT 1LV 27LVT 1LV 27LVT 1LV 27LVT 1LV 27LVT",
     "1LV 27LVT 1LV 27LVT 1LV 27LVT 1LV 27LVT 1LV 27LVT 1LV 27LVT 1LV 27LVT 1LV 27LVT 12- 23V 4-",
     "49T 8994- 1EX 737- 16EX 16- 16EX 207- 1CN 158- 2EX 80- 12CN 513- 1EX 226- 1EX 149- 5EX",
     "1670- 3EX 1- 2EX 5- 4EX 40- 3EX 4- 1EX 165- 2EX 573- 4EX 387- 2EX 80- 3EX 70- 11EX 49- 4EX",
     "122- 1SM 1EX 1SM 53- 15EX 41- 1EX 2- 2EX 10- 3EX 1SM 45- 3SM 4EX 2SM 2EX 2- 1PP 4- 1EX 10-",
     "1PP 50- 3EX 36- 5EX 1SM 8EX 16- 2SM 44- 1EX 12- 2EX 1SM 48- 3SM 9EX 2SM 1- 2PP 5- 4EX 1-",
     "1SM 1EX 92- 3SM 3EX 2SM 1EX 1SM 2EX 6- 1EX 2- 1EX 157- 1EX 3SM 8EX 21- 2EX 2SM 55- 2EX 1-",
     "1EX 1SM 1EX 4SM 2- 2SM 2- 3SM 9- 1EX 10- 2SM 2- 7EX 3- 5EX 192- 3SM 8EX 2SM 3EX 1SM 1EX",
     "23- 1EX 81- 1EX 2SM 6EX 1SM 1EX 2SM 1EX 1SM 2EX 1SM 2EX 235- 1EX 2SM 4EX 2- 4SM 2EX 1SM",
     "2EX 27- 2EX 82- 3SM 8EX 2SM 1EX 1SM 2EX 106- 1EX 1SM 1EX 2SM 6EX 1SM 1EX 101- 3EX 2- 4EX",
     "1SM 5EX 256- 3SM 9EX 1SM 2EX 245- 1EX 5SM 1- 2SM 2- 2EX 1SM 1EX 1PP 1SM 1PP 1SM 1EX 141-",
     "3SM 4EX 2- 2EX 4SM 1EX 3- 1SM 28- 10EX 40- 6EX 1SM 1PP 4EX 8- 1EX 9- 6EX 2SM 3EX 40- 6PP",
     "13EX 1SM 2EX 405- 1SM 7EX 1- 6EX 1SM 1EX 82- 22EX 1- 1SM 7EX 1SM 2EX 1SM 2EX 122- 6EX 3-",
     "1EX 1- 2EX 1- 7EX 1PP 1EX 66- 5SM 1- 2EX 1- 2SM 1EX 1SM 1EX 347- 2EX 2SM 9- 2EX 1PP 1SM",
     "48- 2SM 5EX 3- 2SM 1EX 1SM 1EX 5357- 16CN 1EX 6- 15EX 13978- 5EX 59- 7EX 1048- 1EX 1- 55SM",
     "7- 4EX 81- 1EX 11- 2SM 19627- 2EX 1- 4CN 4700- 46EX 2- 23EX 542- 1EX 1SM 3EX 3- 1SM 5EX",
     "8CN 8EX 2- 7EX 30- 4EX 148- 3EX 1979- 55EX 4- 50EX 8- 1EX 14- 1EX 22- 5EX 1- 15EX 1360-",
     "7EX 1- 17EX 2- 7EX 1- 2EX 1- 5EX 100- 1EX 160- 7EX 375- 1EX 61- 4EX 508- 4EX 992- 7EX 109-",
     "7EX 2203- 26RI 507- 5EX 789504- 32CN 96EX 128CN 240EX 3600CN 192512-"]

def graphemeClusterBreakNames : List (List String × String) :=
  [(["control", "cn"], "CN"),
   (["cr"], "CR"),
   (["lf"], "LF"),
   (["extend", "ex"], "EX"),
   (["l"], "L"),
   (["lv"], "LV"),
   (["lvt"], "LVT"),
   (["prepend", "pp"], "PP"),
   (["regionalindicator", "ri"], "RI"),
   (["spacingmark", "sm"], "SM"),
   (["t"], "T"),
   (["v"], "V"),
   (["zwj"], "ZWJ")]

def graphemeClusterBreak? (name : String) : Option CodePoints :=
  (valuesOf graphemeClusterBreakNames name).map fun code =>
    graphemeClusterBreaks.select (· == code)

def wordBreaks : Partition :=
  Partition.read
    ["10- 1LF 2NL 1CR 18- 1WSegSpace 1- 1DQ 4- 1SQ 4- 1MN 1- 1MB 1- 10NU 1ML 1MN 5- 26LE 4- 1EX",
     "1- 26LE 10- 1NL 36- 1LE 2- 1FO 7- 1LE 1- 1ML 2- 1LE 5- 23LE 1- 31LE 1- 480LE 6- 34LE",
     "112Extend 5LE 1- 2LE 2- 4LE 1MN 1LE 6- 1LE 1ML 3LE 1- 1LE 1- 20LE 1- 83LE 1- 139LE 1-",
     "7Extend 166LE 1- 38LE 2- 4LE 1- 1LE 1ML 41LE 1MN 1LE 6- 45Extend 1- 1Extend 1- 2Extend 1-",
     "2Extend 1- 1Extend 8- 27HL 4- 4HL 1LE 1ML 11- 6FO 6- 2MN 2- 11Extend 1- 1FO 3- 43LE",
     "21Extend 10NU 1- 1NU 1MN 1- 2LE 1Extend 99LE 1- 1LE 7Extend 1FO 1- 6Extend 2LE 2Extend 1-",
     "4Extend 2LE 10NU 3LE 2- 1LE 15- 1FO 1LE 1Extend 30LE 27Extend 2- 89LE 11Extend 1LE 14-",
     "10NU 33LE 9Extend 2LE 2- 1MN 1- 1LE 2- 1Extend 2- 22LE 4Extend 1LE 9Extend 1LE 3Extend 1LE",
     "5Extend 18- 25LE 3Extend 4- 11LE 5- 24LE 1- 6LE 1- 2FO 6- 8Extend 42LE 24Extend 1FO",
     "33Extend 54LE 3Extend 1LE 18Extend 1LE 7Extend 10LE 2Extend 2- 10NU 1- 16LE 3Extend 1- 8LE",
     "2- 2LE 2- 22LE 1- 7LE 1- 1LE 3- 4LE 2- 1Extend 1LE 7Extend 2- 2Extend 2- 3Extend 1LE 8-",
     "1Extend 4- 2LE 1- 3LE 2Extend 2- 10NU 2LE 10- 1LE 1- 1Extend 2- 3Extend 1- 6LE 4- 2LE 2-",
     "22LE 1- 7LE 1- 2LE 1- 2LE 1- 2LE 2- 1Extend 1- 5Extend 4- 2Extend 2- 3Extend 3- 1Extend 7-",
     "4LE 1- 1LE 7- 10NU 2Extend 3LE 1Extend 11- 3Extend 1- 9LE 1- 3LE 1- 22LE 1- 7LE 1- 2LE 1-",
     "5LE 2- 1Extend 1LE 8Extend 1- 3Extend 1- 3Extend 2- 1LE 15- 2LE 2Extend 2- 10NU 9- 1LE",
     "6Extend 1- 3Extend 1- 8LE 2- 2LE 2- 22LE 1- 7LE 1- 2LE 1- 5LE 2- 1Extend 1LE 7Extend 2-",
     "2Extend 2- 3Extend 7- 3Extend 4- 2LE 1- 3LE 2Extend 2- 10NU 1- 1LE 16- 1Extend 1LE 1- 6LE",
     "3- 3LE 1- 4LE 3- 2LE 1- 1LE 1- 2LE 3- 2LE 3- 3LE 3- 12LE 4- 5Extend 3- 3Extend 1- 4Extend",
     "2- 1LE 6- 1Extend 14- 10NU 16- 5Extend 8LE 1- 3LE 1- 23LE 1- 16LE 2- 1Extend 1LE 7Extend",
     "1- 3Extend 1- 4Extend 7- 2Extend 1- 3LE 2- 1LE 2- 2LE 2Extend 2- 10NU 16- 1LE 3Extend 1-",
     "8LE 1- 3LE 1- 23LE 1- 10LE 1- 5LE 2- 1Extend 1LE 7Extend 1- 3Extend 1- 4Extend 7- 2Extend",
     "6- 2LE 1- 2LE 2Extend 2- 10NU 1- 2LE 1Extend 12- 4Extend 9LE 1- 3LE 1- 41LE 2Extend 1LE",
     "7Extend 1- 3Extend 1- 4Extend 1LE 5- 3LE 1Extend 7- 3LE 2Extend 2- 10NU 10- 6LE 1- 3Extend",
     "1- 18LE 3- 24LE 1- 9LE 1- 1LE 2- 7LE 3- 1Extend 4- 6Extend 1- 1Extend 1- 8Extend 6- 10NU",
     "2- 2Extend 61- 1Extend 2- 7Extend 12- 8Extend 1- 10NU 87- 1Extend 2- 9Extend 11- 7Extend",
     "1- 10NU 38- 1LE 23- 2Extend 6- 10NU 11- 1Extend 1- 1Extend 1- 1Extend 4- 2Extend 8LE 1-",
     "36LE 4- 20Extend 1- 2Extend 5LE 11Extend 1- 36Extend 9- 1Extend 100- 20Extend 1- 10NU 12-",
     "4Extend 4- 3Extend 1- 3Extend 2- 7Extend 3- 4Extend 13- 12Extend 1- 1Extend 10NU 4Extend",
     "2- 38LE 1- 1LE 5- 1LE 2- 43LE 1- 333LE 1- 4LE 2- 7LE 1- 1LE 1- 4LE 2- 41LE 1- 4LE 2- 33LE",
     "1- 4LE 2- 7LE 1- 1LE 1- 4LE 2- 15LE 1- 57LE 1- 4LE 2- 67LE 2- 3Extend 32- 16LE 16- 86LE 2-",
     "6LE 3- 620LE 2- 17LE 1WSegSpace 26LE 5- 75LE 3- 11LE 7- 18LE 4Extend 9- 19LE 3Extend 11-",
     "18LE 2Extend 12- 13LE 1- 3LE 1- 2Extend 64- 32Extend 9- 1Extend 2- 10NU 33- 3Extend 1FO",
     "1Extend 10NU 6- 89LE 7- 5LE 2Extend 34LE 1Extend 1LE 5- 70LE 10- 31LE 1- 12Extend 4-",
     "12Extend 10- 10NU 128- 10NU 38- 23LE 5Extend 57- 10Extend 1- 29Extend 2- 1Extend 10NU 6-",
     "10NU 22- 31Extend 49- 5Extend 47LE 17Extend 8LE 3- 10NU 17- 9Extend 12- 3Extend 30LE",
     "13Extend 2LE 10NU 44LE 14Extend 12- 36LE 20Extend 8- 10NU 3- 3LE 10NU 36LE 2- 9LE 7- 43LE",
     "2- 3LE 16- 3Extend 1- 21Extend 4LE 1Extend 6LE 1Extend 2LE 3Extend 1LE 5- 192LE 64Extend",
     "278LE 2- 6LE 2- 38LE 2- 6LE 2- 8LE 1- 1LE 1- 1LE 1- 1LE 1- 31LE 2- 53LE 1- 7LE 1- 1LE 3-",
     "3LE 1- 7LE 3- 4LE 2- 6LE 4- 13LE 5- 3LE 1- 7LE 3- 7WSegSpace 1- 3WSegSpace 1- 1Extend 1ZWJ",
     "2FO 8- 2MB 10- 1MB 2- 1ML 2NL 5FO 1EX 15- 2EX 3- 1MN 15- 1EX 10- 1WSegSpace 5FO 1- 10FO 1-",
     "1LE 13- 1LE 16- 13LE 51- 33Extend 17- 1LE 4- 1LE 2- 10LE 1- 1LE 3- 5LE 6- 1LE 1- 1LE 1-",
     "1LE 1- 4LE 1- 11LE 2- 4LE 5- 5LE 4- 1LE 17- 41LE 813- 52LE 1814- 229LE 6- 4LE 3Extend 2LE",
     "12- 38LE 1- 1LE 5- 1LE 2- 56LE 7- 1LE 15- 1Extend 23LE 9- 7LE 1- 7LE 1- 7LE 1- 7LE 1- 7LE",
     "1- 7LE 1- 7LE 1- 7LE 1- 32Extend 47- 1LE 464- 1WSegSpace 4- 1LE 36- 6Extend 1- 5KA 5- 2LE",
     "92- 2Extend 2KA 3- 91KA 1- 4KA 5- 43LE 1- 94LE 17- 32LE 48- 16KA 208- 47KA 1- 88KA 27816-",
     "1165LE 67- 46LE 2- 269LE 3- 16LE 10NU 2LE 20- 47LE 4Extend 1- 10Extend 1- 31LE 2Extend",
     "80LE 2Extend 22- 195LE 5- 2LE 1- 1LE 1- 5LE 24- 16LE 1Extend 3LE 1Extend 4LE 1Extend 23LE",
     "5Extend 4- 1Extend 19- 52LE 12- 2Extend 50LE 18Extend 10- 10NU 6- 18Extend 6LE 3- 1LE 1-",
     "2LE 1Extend 10NU 28LE 8Extend 2- 23LE 13Extend 12- 29LE 3- 4Extend 47LE 14Extend 14- 1LE",
     "10NU 11- 1Extend 10- 10NU 6- 41LE 14Extend 9- 3LE 1Extend 8LE 2Extend 2- 10NU 33- 3Extend",
     "50- 1Extend 1- 3Extend 2- 2Extend 5- 2Extend 1- 1Extend 30- 11LE 5Extend 2- 3LE 2Extend",
     "10- 6LE 2- 6LE 2- 6LE 9- 7LE 1- 7LE 1- 58LE 6- 115LE 8Extend 1- 2Extend 2- 10NU 6- 11172LE",
     "12- 23LE 4- 49LE 8964- 7LE 12- 5LE 5- 1HL 1Extend 10HL 1- 13HL 1- 5HL 1- 1HL 1- 2HL 1- 2HL",
     "1- 10HL 98LE 33- 363LE 18- 64LE 2- 54LE 40- 12LE 4- 16Extend 1MN 2- 1ML 1MN 11- 16Extend",
     "3- 2EX 24- 3EX 1MN 1- 1MB 1- 1MN 1ML 26- 5LE 1- 135LE 2- 1FO 7- 1MB 4- 1MN 1- 1MB 1- 10NU",
     "1ML 1MN 5- 26LE 4- 1EX 1- 26LE 11- 56KA 2Extend 31LE 3- 6LE 2- 6LE 2- 6LE 2- 3LE 28- 3FO",
     "4- 12LE 1- 26LE 1- 19LE 1- 2LE 1- 15LE 2- 14LE 34- 123LE 69- 53LE 136- 1Extend 130- 29LE",
     "3- 49LE 15- 1Extend 31- 32LE 13- 30LE 5- 38LE 5Extend 5- 30LE 2- 36LE 4- 8LE 1- 5LE 42-",
     "158LE 2- 10NU 6- 36LE 4- 36LE 4- 40LE 8- 52LE 12- 11LE 1- 15LE 1- 7LE 1- 2LE 1- 11LE 1-",
     "15LE 1- 7LE 1- 2LE 67- 311LE 9- 22LE 10- 8LE 24- 6LE 1- 42LE 1- 9LE 69- 6LE 2- 1LE 1- 44LE",
     "1- 2LE 3- 1LE 2- 23LE 10- 23LE 9- 31LE 65- 19LE 1- 2LE 10- 22LE 10- 26LE 70- 56LE 6- 2LE",
     "64- 1LE 3Extend 1- 2Extend 5- 4Extend 4LE 1- 3LE 1- 29LE 2- 3Extend 4- 1Extend 32- 29LE 3-",
     "29LE 35- 8LE 1- 28LE 2Extend 25- 54LE 10- 22LE 10- 19LE 13- 18LE 110- 73LE 55- 51LE 13-",
     "51LE 13- 36LE 4Extend 8- 10NU 326- 42LE 1- 2Extend 3- 2LE 75- 3Extend 29LE 10- 1LE 8- 22LE",
     "11Extend 31- 18LE 4Extend 42- 21LE 27- 23LE 9- 3Extend 53LE 15Extend 31- 10NU 1Extend 2LE",
     "2Extend 1LE 9- 4Extend 45LE 11Extend 2- 1FO 4- 1Extend 10- 1FO 2- 25LE 7- 10NU 6- 3Extend",
     "36LE 14Extend 1- 10NU 4- 1LE 2Extend 1LE 8- 35LE 1Extend 2- 1LE 9- 3Extend 48LE 14Extend",
     "4LE 4- 4Extend 1- 2Extend 10NU 1LE 1- 1LE 35- 18LE 1- 25LE 12Extend 6- 1Extend 2LE 1Extend",
     "62- 7LE 1- 1LE 1- 4LE 1- 15LE 1- 10LE 7- 47LE 12Extend 5- 10NU 6- 4Extend 1- 8LE 2- 2LE 2-",
     "22LE 1- 7LE 1- 2LE 1- 5LE 1- 2Extend 1LE 7Extend 2- 2Extend 2- 3Extend 2- 1LE 6- 1Extend",
     "5- 5LE 2Extend 2- 7Extend 3- 5Extend 139- 53LE 18Extend 4LE 5- 10NU 4- 1Extend 3LE 30-",
     "48LE 20Extend 2LE 1- 1LE 8- 10NU 166- 47LE 7Extend 2- 9Extend 23- 4LE 2Extend 34- 48LE",
     "17Extend 3- 1LE 11- 10NU 38- 43LE 13Extend 1LE 7- 10NU 83- 15Extend 4- 10NU 198- 44LE",
     "15Extend 101- 64LE 10NU 21- 8LE 2- 1LE 2- 8LE 1- 2LE 1- 24LE 6Extend 1- 2Extend 2- 4Extend",
     "1LE 1Extend 1LE 2Extend 12- 10NU 70- 8LE 2- 39LE 7Extend 2- 7Extend 1LE 1- 1LE 1Extend 27-",
     "1LE 10Extend 40LE 7Extend 1LE 4Extend 8- 1Extend 8- 1LE 11Extend 46LE 16Extend 3- 1LE 18-",
     "73LE 263- 9LE 1- 37LE 8Extend 1- 8Extend 1LE 15- 10NU 24- 30LE 2- 22Extend 1- 14Extend 73-",
     "7LE 1- 2LE 1- 38LE 6Extend 3- 1Extend 1- 2Extend 1- 7Extend 1LE 1Extend 8- 10NU 6- 6LE 1-",
     "2LE 1- 32LE 5Extend 1- 2Extend 1- 5Extend 1LE 7- 10NU 310- 19LE 4Extend 9- 2Extend 1LE",
     "1Extend 13LE 1- 34LE 7Extend 3- 5Extend 13- 10NU 86- 1LE 79- 922LE 102- 111LE 17- 196LE",
     "2636- 97LE 15- 1072LE 16FO 1Extend 6LE 15Extend 4010- 583LE 8633- 569LE 7- 31LE 1- 10NU 6-",
     "79LE 1- 10NU 6- 30LE 2- 5Extend 11- 48LE 7Extend 9- 4LE 12- 10NU 9- 21LE 5- 19LE 688- 64LE",
     "128- 75LE 4- 1Extend 1LE 55Extend 7- 4Extend 13LE 64- 2LE 1- 1LE 1Extend 11- 2Extend",
     "16382- 4KA 1- 7KA 1- 2KA 1- 1KA 287- 3KA 50- 1KA 14- 4KA 2712- 107LE 5- 13LE 3- 9LE 7-",
     "10LE 3- 2Extend 1- 4FO 4700- 46Extend 2- 23Extend 542- 5Extend 3- 6Extend 8FO 8Extend 2-",
     "7Extend 30- 4Extend 148- 3Extend 443- 85LE 1- 71LE 1- 2LE 2- 1LE 2- 2LE 2- 4LE 1- 12LE 1-",
     "1LE 1- 7LE 1- 65LE 1- 4LE 2- 8LE 1- 7LE 1- 28LE 1- 4LE 1- 5LE 1- 1LE 3- 7LE 1- 340LE 2-",
     "25LE 1- 25LE 1- 31LE 1- 25LE 1- 31LE 1- 25LE 1- 31LE 1- 25LE 1- 31LE 1- 25LE 1- 8LE 2-",
     "50NU 512- 55Extend 4- 50Extend 8- 1Extend 14- 1Extend 22- 5Extend 1- 15Extend 1104- 31LE",
     "6- 6LE 213- 7Extend 1- 17Extend 2- 7Extend 1- 2Extend 1- 5Extend 5- 62LE 33- 1Extend 112-",
     "45LE 3- 7Extend 7LE 2- 10NU 4- 1LE 321- 30LE 1Extend 17- 44LE 4Extend 10NU 470- 28LE",
     "4Extend 10NU 742- 7LE 1- 4LE 1- 2LE 1- 15LE 1- 197LE 11- 7Extend 41- 68LE 7Extend 1LE 4-",
     "10NU 1190- 4LE 1- 27LE 1- 2LE 1- 1LE 2- 1LE 1- 10LE 1- 4LE 1- 1LE 1- 1LE 6- 1LE 4- 1LE 1-",
     "1LE 1- 1LE 1- 3LE 1- 2LE 1- 1LE 2- 1LE 1- 1LE 1- 1LE 1- 1LE 1- 1LE 1- 2LE 1- 1LE 2- 4LE 1-",
     "7LE 1- 4LE 1- 4LE 1- 1LE 1- 10LE 1- 17LE 5- 3LE 1- 5LE 1- 17LE 628- 26LE 6- 26LE 6- 26LE",
     "92- 26RI 507- 5Extend 2032- 10NU 787463- 1FO 30- 96Extend 128- 240Extend 196112-"]

def wordBreakNames : List (List String × String) :=
  [(["aletter", "le"], "LE"),
   (["cr"], "CR"),
   (["lf"], "LF"),
   (["newline", "nl"], "NL"),
   (["doublequote", "dq"], "DQ"),
   (["singlequote", "sq"], "SQ"),
   (["extend"], "Extend"),
   (["extendnumlet", "ex"], "EX"),
   (["format", "fo"], "FO"),
   (["hebrewletter", "hl"], "HL"),
   (["katakana", "ka"], "KA"),
   (["midletter", "ml"], "ML"),
   (["midnum", "mn"], "MN"),
   (["midnumlet", "mb"], "MB"),
   (["numeric", "nu"], "NU"),
   (["regionalindicator", "ri"], "RI"),
   (["wsegspace"], "WSegSpace"),
   (["zwj"], "ZWJ")]

def wordBreak? (name : String) : Option CodePoints :=
  (valuesOf wordBreakNames name).map fun code =>
    wordBreaks.select (· == code)

def sentenceBreaks : Partition :=
  Partition.read
    ["9- 1SP 1LF 2SP 1CR 18- 1SP 1ST 1CL 4- 3CL 2- 2SC 1AT 1- 10NU 1SC 4- 1ST 1- 26UP 1CL 1- 1CL",
     "3- 26LO 1CL 1- 1CL 7- 1SE 26- 1SP 9- 1LO 1CL 1- 1FO 7- 1LO 4- 1LO 1CL 4- 23UP 1- 7UP 24LO",
     "1- 8LO 1UP 1LO 1UP 1LO 1UP 1LO 1UP 1LO 1UP 1LO 1UP 1LO 1UP 1LO 1UP 1LO 1UP 1LO 1UP 1LO 1UP",
     "1LO 1UP 1LO 1UP 1LO 1UP 1LO 1UP 1LO 1UP 1LO 1UP 1LO 1UP 1LO 1UP 1LO 1UP 1LO 1UP 1LO 1UP",
     "1LO 1UP 1LO 1UP 1LO 1UP 1LO 1UP 1LO 1UP 1LO 1UP 2LO 1UP 1LO 1UP 1LO 1UP 1LO 1UP 1LO 1UP",
     "1LO 1UP 1LO 1UP 1LO 1UP 2LO 1UP 1LO 1UP 1LO 1UP 1LO 1UP 1LO 1UP 1LO 1UP 1LO 1UP 1LO 1UP",
     "1LO 1UP 1LO 1UP 1LO 1UP 1LO 1UP 1LO 1UP 1LO 1UP 1LO 1UP 1LO 1UP 1LO 1UP 1LO 1UP 1LO 1UP",
     "1LO 1UP 1LO 1UP 1LO 1UP 1LO 1UP 1LO 2UP 1LO 1UP 1LO 1UP 3LO 2UP 1LO 1UP 1LO 2UP 1LO 3UP",
     "2LO 4UP 1LO 2UP 1LO 3UP 3LO 2UP 1LO 2UP 1LO 1UP 1LO 1UP 1LO 2UP 1LO 1UP 2LO 1UP 1LO 2UP",
     "1LO 3UP 1LO 1UP 1LO 2UP 2LO 1LE 1UP 3LO 4LE 2UP 1LO 2UP 1LO 2UP 1LO 1UP 1LO 1UP 1LO 1UP",
     "1LO 1UP 1LO 1UP 1LO 1UP 1LO 1UP 1LO 1UP 2LO 1UP 1LO 1UP 1LO 1UP 1LO 1UP 1LO 1UP 1LO 1UP",
     "1LO 1UP 1LO 1UP 1LO 1UP 2LO 2UP 1LO 1UP 1LO 3UP 1LO 1UP 1LO 1UP 1LO 1UP 1LO 1UP 1LO 1UP",
     "1LO 1UP 1LO 1UP 1LO 1UP 1LO 1UP 1LO 1UP 1LO 1UP 1LO 1UP 1LO 1UP 1LO 1UP 1LO 1UP 1LO 1UP",
     "1LO 1UP 1LO 1UP 1LO 1UP 1LO 1UP 1LO 1UP 1LO 1UP 1LO 1UP 1LO 1UP 1LO 1UP 1LO 1UP 1LO 1UP",
     "1LO 1UP 1LO 1UP 7LO 2UP 1LO 2UP 2LO 1UP 1LO 4UP 1LO 1UP 1LO 1UP 1LO 1UP 1LO 1UP 69LO 1LE",
     "36LO 7LE 2LO 4- 12LE 14- 5LO 7- 1LE 1- 1LE 17- 112EX 1UP 1LO 1UP 1LO 1LE 1- 1UP 1LO 2- 4LO",
     "1- 1UP 6- 1UP 1- 3UP 1- 1UP 1- 2UP 1LO 17UP 1- 9UP 35LO 1UP 2LO 3UP 3LO 1UP 1LO 1UP 1LO",
     "1UP 1LO 1UP 1LO 1UP 1LO 1UP 1LO 1UP 1LO 1UP 1LO 1UP 1LO 1UP 1LO 1UP 1LO 1UP 5LO 1UP 1LO 1-",
     "1UP 1LO 2UP 2LO 51UP 48LO 1UP 1LO 1UP 1LO 1UP 1LO 1UP 1LO 1UP 1LO 1UP 1LO 1UP 1LO 1UP 1LO",
     "1UP 1LO 1UP 1LO 1UP 1LO 1UP 1LO 1UP 1LO 1UP 1LO 1UP 1LO 1UP 1LO 1UP 1LO 1- 7EX 1UP 1LO 1UP",
     "1LO 1UP 1LO 1UP 1LO 1UP 1LO 1UP 1LO 1UP 1LO 1UP 1LO 1UP 1LO 1UP 1LO 1UP 1LO 1UP 1LO 1UP",
     "1LO 1UP 1LO 1UP 1LO 1UP 1LO 1UP 1LO 1UP 1LO 1UP 1LO 1UP 1LO 1UP 1LO 1UP 1LO 1UP 1LO 1UP",
     "1LO 1UP 1LO 1UP 1LO 1UP 1LO 2UP 1LO 1UP 1LO 1UP 1LO 1UP 1LO 1UP 1LO 1UP 1LO 1UP 2LO 1UP",
     "1LO 1UP 1LO 1UP 1LO 1UP 1LO 1UP 1LO 1UP 1LO 1UP 1LO 1UP 1LO 1UP 1LO 1UP 1LO 1UP 1LO 1UP",
     "1LO 1UP 1LO 1UP 1LO 1UP 1LO 1UP 1LO 1UP 1LO 1UP 1LO 1UP 1LO 1UP 1LO 1UP 1LO 1UP 1LO 1UP",
     "1LO 1UP 1LO 1UP 1LO 1UP 1LO 1UP 1LO 1UP 1LO 1UP 1LO 1UP 1LO 1UP 1LO 1UP 1LO 1UP 1LO 1UP",
     "1LO 1UP 1LO 1UP 1LO 1UP 1LO 1UP 1LO 1UP 1LO 1UP 1LO 1UP 1LO 1UP 1LO 1UP 1LO 1UP 1LO 1UP",
     "1LO 1UP 1LO 1UP 1LO 1UP 1LO 1- 38UP 2- 1LE 3- 1SC 2- 41LO 1ST 7- 45EX 1- 1EX 1- 2EX 1- 2EX",
     "1- 1EX 8- 27LE 4- 5LE 12- 6FO 6- 2SC 2- 11EX 1- 1FO 3ST 43LE 21EX 10NU 1- 2NU 1- 2LE 1EX",
     "99LE 1ST 1LE 7EX 1FO 1- 6EX 2LE 2EX 1- 4EX 2LE 10NU 3LE 2- 1LE 3ST 12- 1FO 1LE 1EX 30LE",
     "27EX 2- 89LE 11EX 1LE 14- 10NU 33LE 9EX 2LE 2- 1SC 1ST 1LE 2- 1EX 2- 22LE 4EX 1LE 9EX 1LE",
     "3EX 1LE 5EX 9- 1ST 1- 1ST 3- 2ST 1- 25LE 3EX 4- 11LE 5- 24LE 1- 6LE 1- 2FO 6- 8EX 42LE",
     "24EX 1FO 33EX 54LE 3EX 1LE 18EX 1LE 7EX 10LE 2EX 2ST 10NU 1- 16LE 3EX 1- 8LE 2- 2LE 2-",
     "22LE 1- 7LE 1- 1LE 3- 4LE 2- 1EX 1LE 7EX 2- 2EX 2- 3EX 1LE 8- 1EX 4- 2LE 1- 3LE 2EX 2-",
     "10NU 2LE 10- 1LE 1- 1EX 2- 3EX 1- 6LE 4- 2LE 2- 22LE 1- 7LE 1- 2LE 1- 2LE 1- 2LE 2- 1EX 1-",
     "5EX 4- 2EX 2- 3EX 3- 1EX 7- 4LE 1- 1LE 7- 10NU 2EX 3LE 1EX 11- 3EX 1- 9LE 1- 3LE 1- 22LE",
     "1- 7LE 1- 2LE 1- 5LE 2- 1EX 1LE 8EX 1- 3EX 1- 3EX 2- 1LE 15- 2LE 2EX 2- 10NU 9- 1LE 6EX 1-",
     "3EX 1- 8LE 2- 2LE 2- 22LE 1- 7LE 1- 2LE 1- 5LE 2- 1EX 1LE 7EX 2- 2EX 2- 3EX 7- 3EX 4- 2LE",
     "1- 3LE 2EX 2- 10NU 1- 1LE 16- 1EX 1LE 1- 6LE 3- 3LE 1- 4LE 3- 2LE 1- 1LE 1- 2LE 3- 2LE 3-",
     "3LE 3- 12LE 4- 5EX 3- 3EX 1- 4EX 2- 1LE 6- 1EX 14- 10NU 16- 5EX 8LE 1- 3LE 1- 23LE 1- 16LE",
     "2- 1EX 1LE 7EX 1- 3EX 1- 4EX 7- 2EX 1- 3LE 2- 1LE 2- 2LE 2EX 2- 10NU 16- 1LE 3EX 1- 8LE 1-",
     "3LE 1- 23LE 1- 10LE 1- 5LE 2- 1EX 1LE 7EX 1- 3EX 1- 4EX 7- 2EX 6- 2LE 1- 2LE 2EX 2- 10NU",
     "1- 2LE 1EX 12- 4EX 9LE 1- 3LE 1- 41LE 2EX 1LE 7EX 1- 3EX 1- 4EX 1LE 5- 3LE 1EX 7- 3LE 2EX",
     "2- 10NU 10- 6LE 1- 3EX 1- 18LE 3- 24LE 1- 9LE 1- 1LE 2- 7LE 3- 1EX 4- 6EX 1- 1EX 1- 8EX 6-",
     "10NU 2- 2EX 13- 48LE 1EX 2LE 7EX 5- 7LE 8EX 1- 10NU 39- 2LE 1- 1LE 1- 5LE 1- 24LE 1- 1LE",
     "1- 10LE 1EX 2LE 9EX 1LE 2- 5LE 1- 1LE 1- 7EX 1- 10NU 2- 4LE 32- 1LE 23- 2EX 6- 10NU 11-",
     "1EX 1- 1EX 1- 1EX 4CL 2EX 8LE 1- 36LE 4- 20EX 1- 2EX 5LE 11EX 1- 36EX 9- 1EX 57- 43LE 20EX",
     "1LE 10NU 2ST 4- 6LE 4EX 4LE 3EX 1LE 3EX 2LE 7EX 3LE 4EX 13LE 12EX 1LE 1EX 10NU 4EX 2- 38UP",
     "1- 1UP 5- 1UP 2- 43LE 1- 1LO 332LE 1- 4LE 2- 7LE 1- 1LE 1- 4LE 2- 41LE 1- 4LE 2- 33LE 1-",
     "4LE 2- 7LE 1- 1LE 1- 4LE 2- 15LE 1- 57LE 1- 4LE 2- 67LE 2- 3EX 2- 1ST 4- 2ST 23- 16LE 16-",
     "86UP 2- 6LO 3- 620LE 1- 1ST 17LE 1SP 26LE 2CL 3- 75LE 3- 11LE 7- 18LE 4EX 9- 19LE 3EX 2ST",
     "9- 18LE 2EX 12- 13LE 1- 3LE 1- 2EX 12- 52LE 32EX 3- 1LE 4- 1LE 1EX 2- 10NU 24- 1SC 1ST 4-",
     "1SC 1ST 1- 3EX 1FO 1EX 10NU 6- 89LE 7- 5LE 2EX 34LE 1EX 1LE 5- 70LE 10- 31LE 1- 12EX 4-",
     "12EX 8- 2ST 10NU 30LE 2- 5LE 11- 44LE 4- 26LE 6- 10NU 38- 23LE 5EX 4- 53LE 10EX 1- 29EX 2-",
     "1EX 10NU 6- 10NU 13- 1LE 4ST 4- 31EX 49- 5EX 47LE 17EX 8LE 3- 10NU 2ST 2- 2ST 11- 9EX 9-",
     "2ST 1- 3EX 30LE 13EX 2LE 10NU 44LE 14EX 12- 36LE 20EX 3- 2ST 3- 10NU 3- 3LE 10NU 36LE 2ST",
     "9LO 7- 43LE 2- 3LE 16- 3EX 1- 21EX 4LE 1EX 6LE 1EX 2LE 3EX 1LE 5- 192LO 64EX 1UP 1LO 1UP",
     "1LO 1UP 1LO 1UP 1LO 1UP 1LO 1UP 1LO 1UP 1LO 1UP 1LO 1UP 1LO 1UP 1LO 1UP 1LO 1UP 1LO 1UP",
     "1LO 1UP 1LO 1UP 1LO 1UP 1LO 1UP 1LO 1UP 1LO 1UP 1LO 1UP 1LO 1UP 1LO 1UP 1LO 1UP 1LO 1UP",
     "1LO 1UP 1LO 1UP 1LO 1UP 1LO 1UP 1LO 1UP 1LO 1UP 1LO 1UP 1LO 1UP 1LO 1UP 1LO 1UP 1LO 1UP",
     "1LO 1UP 1LO 1UP 1LO 1UP 1LO 1UP 1LO 1UP 1LO 1UP 1LO 1UP 1LO 1UP 1LO 1UP 1LO 1UP 1LO 1UP",
     "1LO 1UP 1LO 1UP 1LO 1UP 1LO 1UP 1LO 1UP 1LO 1UP 1LO 1UP 1LO 1UP 1LO 1UP 1LO 1UP 1LO 1UP",
     "1LO 1UP 1LO 1UP 1LO 1UP 1LO 1UP 1LO 1UP 1LO 1UP 1LO 1UP 1LO 1UP 1LO 1UP 1LO 1UP 1LO 1UP",
     "1LO 1UP 1LO 1UP 1LO 1UP 1LO 1UP 1LO 1UP 1LO 1UP 1LO 1UP 9LO 1UP 1LO 1UP 1LO 1UP 1LO 1UP",
     "1LO 1UP 1LO 1UP 1LO 1UP 1LO 1UP 1LO 1UP 1LO 1UP 1LO 1UP 1LO 1UP 1LO 1UP 1LO 1UP 1LO 1UP",
     "1LO 1UP 1LO 1UP 1LO 1UP 1LO 1UP 1LO 1UP 1LO 1UP 1LO 1UP 1LO 1UP 1LO 1UP 1LO 1UP 1LO 1UP",
     "1LO 1UP 1LO 1UP 1LO 1UP 1LO 1UP 1LO 1UP 1LO 1UP 1LO 1UP 1LO 1UP 1LO 1UP 1LO 1UP 1LO 1UP",
     "1LO 1UP 1LO 1UP 1LO 1UP 1LO 1UP 1LO 1UP 1LO 1UP 1LO 1UP 1LO 1UP 1LO 1UP 1LO 1UP 1LO 1UP",
     "1LO 1UP 9LO 8UP 6LO 2- 6UP 2- 8LO 8UP 8LO 8UP 6LO 2- 6UP 2- 8LO 1- 1UP 1- 1UP 1- 1UP 1-",
     "1UP 8LO 8UP 14LO 2- 8LO 8UP 8LO 8UP 8LO 8UP 5LO 1- 2LO 5UP 1- 1LO 3- 3LO 1- 2LO 5UP 3- 4LO",
     "2- 2LO 4UP 4- 8LO 5UP 5- 3LO 1- 2LO 5UP 3- 11SP 1FO 2EX 2FO 3- 2SC 3- 8CL 4- 1AT 3- 2SE",
     "5FO 1SP 9- 2CL 1- 2ST 7- 2CL 3ST 21- 1SP 5FO 1- 10FO 1- 1LO 11- 2CL 1LO 13- 2CL 1- 13LO",
     "51- 33EX 17- 1UP 4- 1UP 2- 1LO 3UP 2LO 3UP 1LO 1- 1UP 3- 5UP 6- 1UP 1- 1UP 1- 1UP 1- 4UP",
     "1- 1LO 4UP 1LO 4LE 1LO 2- 2LO 2UP 5- 1UP 4LO 4- 1LO 17- 16UP 16LO 3LE 1UP 1LO 4LE 383- 4CL",
     "29- 2CL 395- 26UP 26LO 625- 6CL 7- 14CL 79- 2CL 31- 10CL 403- 22CL 63- 4CL 32- 2CL 514-",
     "48UP 48LO 1UP 1LO 3UP 2LO 1UP 1LO 1UP 1LO 1UP 1LO 4UP 1LO 1UP 2LO 1UP 8LO 3UP 1LO 1UP 1LO",
     "1UP 1LO 1UP 1LO 1UP 1LO 1UP 1LO 1UP 1LO 1UP 1LO 1UP 1LO 1UP 1LO 1UP 1LO 1UP 1LO 1UP 1LO",
     "1UP 1LO 1UP 1LO 1UP 1LO 1UP 1LO 1UP 1LO 1UP 1LO 1UP 1LO 1UP 1LO 1UP 1LO 1UP 1LO 1UP 1LO",
     "1UP 1LO 1UP 1LO 1UP 1LO 1UP 1LO 1UP 1LO 1UP 1LO 1UP 1LO 1UP 1LO 1UP 1LO 1UP 1LO 1UP 1LO",
     "1UP 1LO 1UP 1LO 1UP 1LO 1UP 1LO 1UP 1LO 1UP 1LO 1UP 1LO 1UP 1LO 1UP 1LO 1UP 1LO 1UP 1LO",
     "1UP 1LO 1UP 1LO 1UP 1LO 1UP 2LO 6- 1UP 1LO 1UP 1LO 3EX 1UP 1LO 12- 38LO 1- 1LO 5- 1LO 2-",
     "56LE 7- 1LE 15- 1EX 23LE 9- 7LE 1- 7LE 1- 7LE 1- 7LE 1- 7LE 1- 7LE 1- 7LE 1- 7LE 1- 32EX",
     "14CL 14- 2CL 2- 10CL 4- 1ST 1LE 12- 1ST 5- 1CL 16- 2ST 8CL 419- 1SP 1SC 1ST 2- 3LE 10CL 2-",
     "8CL 1- 3CL 1- 9LE 6EX 1- 5LE 2- 5LE 4- 86LE 2- 2EX 2- 3LE 1- 90LE 1- 4LE 5- 43LE 1- 94LE",
     "17- 32LE 48- 16LE 512- 6592LE 64- 22157LE 67- 46LE 1- 1ST 269LE 1- 2ST 16LE 10NU 2LE 20-",
     "1UP 1LO 1UP 1LO 1UP 1LO 1UP 1LO 1UP 1LO 1UP 1LO 1UP 1LO 1UP 1LO 1UP 1LO 1UP 1LO 1UP 1LO",
     "1UP 1LO 1UP 1LO 1UP 1LO 1UP 1LO 1UP 1LO 1UP 1LO 1UP 1LO 1UP 1LO 1UP 1LO 1UP 1LO 1UP 1LO",
     "1UP 1LO 1LE 4EX 1- 10EX 1- 1LE 1UP 1LO 1UP 1LO 1UP 1LO 1UP 1LO 1UP 1LO 1UP 1LO 1UP 1LO 1UP",
     "1LO 1UP 1LO 1UP 1LO 1UP 1LO 1UP 1LO 1UP 1LO 1UP 3LO 2EX 80LE 2EX 1- 1ST 3- 1ST 31- 9LE 2-",
     "1UP 1LO 1UP 1LO 1UP 1LO 1UP 1LO 1UP 1LO 1UP 1LO 1UP 3LO 1UP 1LO 1UP 1LO 1UP 1LO 1UP 1LO",
     "1UP 1LO 1UP 1LO 1UP 1LO 1UP 1LO 1UP 1LO 1UP 1LO 1UP 1LO 1UP 1LO 1UP 1LO 1UP 1LO 1UP 1LO",
     "1UP 1LO 1UP 1LO 1UP 1LO 1UP 1LO 1UP 1LO 1UP 1LO 1UP 1LO 1UP 1LO 1UP 1LO 1UP 1LO 1UP 1LO",
     "1UP 1LO 1UP 1LO 1UP 1LO 1UP 1LO 1UP 10LO 1UP 1LO 1UP 1LO 2UP 1LO 1UP 1LO 1UP 1LO 1UP 1LO",
     "1UP 1LO 1LE 2- 1UP 1LO 1UP 1LO 1LE 1UP 1LO 1UP 3LO 1UP 1LO 1UP 1LO 1UP 1LO 1UP 1LO 1UP 1LO",
     "1UP 1LO 1UP 1LO 1UP 1LO 1UP 1LO 1UP 1LO 5UP 1LO 5UP 1LO 1UP 1LO 1UP 1LO 1UP 1LO 1UP 1LO",
     "1UP 1LO 1UP 1LO 1UP 1LO 4UP 1LO 1UP 1LO 5- 1UP 1LO 1- 1LO 1- 1LO 1UP 1LO 1UP 1LO 24- 3LO",
     "1UP 1LO 1LE 3LO 7LE 1EX 3LE 1EX 4LE 1EX 23LE 5EX 4- 1EX 19- 52LE 2- 2ST 8- 2EX 50LE 18EX",
     "8- 2ST 10NU 6- 18EX 6LE 3- 1LE 1- 2LE 1EX 10NU 28LE 8EX 1- 1ST 23LE 13EX 12- 29LE 3- 4EX",
     "47LE 14EX 7- 2ST 5- 1LE 10NU 6- 5LE 1EX 10LE 10NU 5LE 1- 41LE 14EX 9- 3LE 1EX 8LE 2EX 2-",
     "10NU 3- 3ST 23LE 3- 1LE 3EX 50LE 1EX 1LE 3EX 2LE 2EX 5LE 2EX 1LE 1EX 1LE 24- 3LE 2- 11LE",
     "5EX 2ST 3LE 2EX 10- 6LE 2- 6LE 2- 6LE 9- 7LE 1- 7LE 1- 43LO 1- 14LO 6- 80LO 35LE 8EX 1ST",
     "2EX 2- 10NU 6- 11172LE 12- 23LE 4- 49LE 8452- 366LE 2- 106LE 38- 7LO 12- 5LO 5- 1LE 1EX",
     "10LE 1- 13LE 1- 5LE 1- 1LE 1- 2LE 1- 2LE 1- 108LE 33- 363LE 2CL 16- 64LE 2- 54LE 40- 12LE",
     "4- 16EX 2SC 1- 1SC 3- 2CL 7- 16EX 1- 2SC 2- 16CL 2- 2CL 7- 2SC 1AT 2- 1SC 2ST 1SC 6CL 4-",
     "1SC 12- 5LE 1- 135LE 2- 1FO 1- 1ST 6- 2CL 2- 2SC 1AT 1- 10NU 1SC 4- 1ST 1- 26UP 1CL 1- 1CL",
     "3- 26LO 1CL 1- 1CL 1- 2CL 1ST 2CL 1SC 1- 56LE 2EX 31LE 3- 6LE 2- 6LE 2- 6LE 2- 3LE 28- 3FO",
     "4- 12LE 1- 26LE 1- 19LE 1- 2LE 1- 15LE 2- 14LE 34- 123LE 69- 53LE 136- 1EX 130- 29LE 3-",
     "49LE 15- 1EX 31- 32LE 13- 30LE 5- 38LE 5EX 5- 30LE 2- 36LE 4- 8LE 1- 5LE 42- 40UP 40LO",
     "78LE 2- 10NU 6- 36UP 4- 36LO 4- 40LE 8- 52LE 12- 11UP 1- 15UP 1- 7UP 1- 2UP 1- 11LO 1-",
     "15LO 1- 7LO 1- 2LO 67- 311LE 9- 22LE 10- 8LE 24- 1LO 2LE 3LO 1- 42LO 1- 9LO 69- 6LE 2- 1LE",
     "1- 44LE 1- 2LE 3- 1LE 2- 23LE 10- 23LE 9- 31LE 65- 19LE 1- 2LE 10- 22LE 10- 26LE 70- 56LE",
     "6- 2LE 64- 1LE 3EX 1- 2EX 5- 4EX 4LE 1- 3LE 1- 29LE 2- 3EX 4- 1EX 22- 2ST 8- 29LE 3- 29LE",
     "35- 8LE 1- 28LE 2EX 25- 54LE 10- 22LE 10- 19LE 13- 18LE 110- 73LE 55- 51UP 13- 51LO 13-",
     "36LE 4EX 8- 10NU 326- 42LE 1- 2EX 3- 2LE 75- 3EX 29LE 10- 1LE 8- 22LE 11EX 4- 5ST 22- 18LE",
     "4EX 4ST 38- 21LE 27- 23LE 9- 3EX 53LE 15EX 2ST 29- 10NU 1EX 2LE 2EX 1LE 9- 4EX 45LE 11EX",
     "2- 1FO 4ST 1EX 10- 1FO 2- 25LE 7- 10NU 6- 3EX 36LE 14EX 1- 10NU 1- 3ST 1LE 2EX 1LE 8- 35LE",
     "1EX 2- 1LE 9- 3EX 48LE 14EX 4LE 2ST 2- 4EX 1ST 2EX 10NU 1LE 1- 1LE 1- 2ST 32- 18LE 1- 25LE",
     "12EX 2ST 1- 2ST 1- 1EX 2LE 1EX 62- 7LE 1- 1LE 1- 4LE 1- 15LE 1- 10LE 1ST 6- 47LE 12EX 5-",
     "10NU 6- 4EX 1- 8LE 2- 2LE 2- 22LE 1- 7LE 1- 2LE 1- 5LE 1- 2EX 1LE 7EX 2- 2EX 2- 3EX 2- 1LE",
     "6- 1EX 5- 5LE 2EX 2- 7EX 3- 5EX 139- 53LE 18EX 4LE 2ST 3- 10NU 4- 1EX 3LE 30- 48LE 20EX",
     "2LE 1- 1LE 8- 10NU 166- 47LE 7EX 2- 9EX 1- 2ST 5- 15ST 4LE 2EX 34- 48LE 17EX 2ST 1- 1LE",
     "11- 10NU 38- 43LE 13EX 1LE 7- 10NU 54- 27LE 2- 15EX 4- 10NU 2- 3ST 1- 7LE 185- 44LE 15EX",
     "101- 32UP 32LO 10NU 21- 8LE 2- 1LE 2- 8LE 1- 2LE 1- 24LE 6EX 1- 2EX 2- 4EX 1LE 1EX 1LE 2EX",
     "1ST 1- 1ST 9- 10NU 70- 8LE 2- 39LE 7EX 2- 7EX 1LE 1- 1LE 1EX 27- 1LE 10EX 40LE 7EX 1LE 4EX",
     "3- 2ST 3- 1EX 8- 1LE 11EX 46LE 16EX 1- 2ST 1LE 18- 73LE 263- 9LE 1- 37LE 8EX 1- 8EX 1LE",
     "2ST 13- 10NU 24- 30LE 2- 22EX 1- 14EX 73- 7LE 1- 2LE 1- 38LE 6EX 3- 1EX 1- 2EX 1- 7EX 1LE",
     "1EX 8- 10NU 6- 6LE 1- 2LE 1- 32LE 5EX 1- 2EX 1- 5EX 1LE 7- 10NU 310- 19LE 4EX 2ST 7- 2EX",
     "1LE 1EX 13LE 1- 34LE 7EX 3- 5EX 2ST 11- 10NU 86- 1LE 79- 922LE 102- 111LE 17- 196LE 2636-",
     "97LE 15- 1072LE 16FO 1EX 6LE 15EX 4010- 583LE 8633- 569LE 7- 31LE 1- 10NU 4- 2ST 79LE 1-",
     "10NU 6- 30LE 2- 5EX 1ST 10- 48LE 7EX 2ST 7- 4LE 1ST 11- 10NU 9- 21LE 5- 19LE 688- 32UP",
     "32LO 24- 1ST 103- 75LE 4- 1EX 1LE 55EX 7- 4EX 13LE 64- 2LE 1- 1LE 1EX 11- 2EX 14- 6136LE",
     "8- 1238LE 42- 9LE 8935- 4LE 1- 7LE 1- 2LE 1- 291LE 15- 1LE 29- 3LE 2- 1LE 14- 4LE 8- 396LE",
     "2308- 107LE 5- 13LE 3- 9LE 7- 10LE 3- 2EX 1ST 4FO 4700- 46EX 2- 23EX 542- 5EX 3- 6EX 8FO",
     "8EX 2- 7EX 30- 4EX 148- 3EX 443- 26UP 26LO 26UP 7LO 1- 18LO 26UP 26LO 1UP 1- 2UP 2- 1UP 2-",
     "2UP 2- 4UP 1- 8UP 4LO 1- 1LO 1- 7LO 1- 11LO 26UP 26LO 2UP 1- 4UP 2- 8UP 1- 7UP 1- 26LO 2UP",
     "1- 4UP 1- 5UP 1- 1UP 3- 7UP 1- 26LO 26UP 26LO 26UP 26LO 26UP 26LO 26UP 26LO 26UP 26LO 26UP",
     "28LO 2- 25UP 1- 25LO 1- 6LO 25UP 1- 25LO 1- 6LO 25UP 1- 25LO 1- 6LO 25UP 1- 25LO 1- 6LO",
     "25UP 1- 25LO 1- 6LO 1UP 1LO 2- 50NU 512- 55EX 4- 50EX 8- 1EX 14- 1EX 3- 1ST 18- 5EX 1-",
     "15EX 1104- 10LO 1LE 20LO 6- 6LO 213- 7EX 1- 17EX 2- 7EX 1- 2EX 1- 5EX 5- 62LO 33- 1EX 112-",
     "45LE 3- 7EX 7LE 2- 10NU 4- 1LE 321- 30LE 1EX 17- 44LE 4EX 10NU 470- 28LE 4EX 10NU 742- 7LE",
     "1- 4LE 1- 2LE 1- 15LE 1- 197LE 11- 7EX 41- 34UP 34LO 7EX 1LE 4- 10NU 1190- 4LE 1- 27LE 1-",
     "2LE 1- 1LE 2- 1LE 1- 10LE 1- 4LE 1- 1LE 1- 1LE 6- 1LE 4- 1LE 1- 1LE 1- 1LE 1- 3LE 1- 2LE",
     "1- 1LE 2- 1LE 1- 1LE 1- 1LE 1- 1LE 1- 1LE 1- 2LE 1- 1LE 2- 4LE 1- 7LE 1- 4LE 1- 4LE 1- 1LE",
     "1- 10LE 1- 17LE 5- 3LE 1- 5LE 1- 17LE 628- 26UP 6- 26UP 6- 26UP 1260- 3CL 1399- 10NU 1030-",
     "42720LE 32- 4154LE 6- 222LE 2- 5762LE 14- 7473LE 3103- 542LE 1506- 4939LE 5- 4192LE",
     "711761- 1FO 30- 96EX 128- 240EX 196112-"]

def sentenceBreakNames : List (List String × String) :=
  [(["aterm", "at"], "AT"),
   (["cr"], "CR"),
   (["lf"], "LF"),
   (["close", "cl"], "CL"),
   (["extend", "ex"], "EX"),
   (["format", "fo"], "FO"),
   (["lower", "lo"], "LO"),
   (["numeric", "nu"], "NU"),
   (["oletter", "le"], "LE"),
   (["scontinue", "sc"], "SC"),
   (["sterm", "st"], "ST"),
   (["sep", "se"], "SE"),
   (["sp"], "SP"),
   (["upper", "up"], "UP")]

def sentenceBreak? (name : String) : Option CodePoints :=
  (valuesOf sentenceBreakNames name).map fun code =>
    sentenceBreaks.select (· == code)

end Unicode
end Pattern
end TaggedContent
