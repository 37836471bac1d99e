import TaggedContent.Pattern.Unicode.RunLength

namespace TaggedContent
namespace Pattern
namespace Unicode

/-!
# Ages

The version in which each code point was assigned; a dash marks those that are
not.  A pattern that names a version means that version and all before it.
-/

def ages : Partition :=
  Partition.read
    ["502v11 4v30 30v11 8v30 1v32 1v40 18v30 3v40 11v41 14v50 89v11 5v30 2v40 47v11 1v30 10v11",
     "5v30 17v40 70v11 9v30 1v32 8v40 5v41 3v40 2v11 1v30 13v32 4v51 2v11 2v51 2- 1v11 3v50 1v11",
     "1v70 4- 7v11 1- 1v11 1- 20v11 1- 44v11 1v51 7v11 1v30 2v32 1v11 1v30 1v11 1v30 1v11 1v30",
     "1v11 1v30 18v11 2v31 1v32 5v40 4v41 1v30 12v11 1v30 66v11 1v30 12v11 1v30 41v11 1v51 2v30",
     "2v32 4v30 53v11 2v32 2v11 2v32 2v11 2v32 1v50 28v11 2v30 8v11 2v41 2v11 6v50 16v32 4v50",
     "16v51 2v52 2v60 8v70 1- 38v11 2- 7v11 1v110 39v11 1v110 1v11 1v30 2- 2v70 1v61 1- 17v20",
     "1v41 13v20 10v11 1v50 9v11 1v20 3v41 8- 27v11 4- 1v110 5v11 11- 4v40 1v61 1v70 5v51 1v41",
     "1v11 9v40 5v51 1v11 1v63 1v140 1v41 1v11 1v60 26v11 5v51 19v11 3v30 3v40 6v41 1v60 14v11",
     "2v32 72v11 2v30 5v11 1v30 15v11 1v30 30v11 2v40 10v11 5v30 1v40 14v30 1- 30v30 3v40 27v30",
     "2- 3v40 30v41 18v51 49v30 1v32 14- 59v50 2- 3v110 46v52 2- 15v52 1- 28v60 2- 1v60 1-",
     "11v100 5- 31v140 1v170 2v140 5- 1v160 8v140 1v61 1v70 11v61 6v70 2v80 1v140 8v90 10v130",
     "11v140 1v110 15v90 1v80 27v61 1v70 1v52 3v11 1v40 53v11 2v60 18v11 1v52 1v60 5v11 1v52",
     "2v60 25v11 2v51 5v60 1v70 2v52 2v50 1v41 2v50 1v70 3v11 1- 8v11 2- 2v11 2- 22v11 1- 7v11",
     "1- 1v11 3- 4v11 2- 1v11 1v40 7v11 2- 2v11 2- 3v11 1v41 8- 1v11 4- 2v11 1- 5v11 2- 21v11",
     "1v52 2v100 1v110 2- 1v40 1v11 1v40 1- 6v11 4- 2v11 2- 22v11 1- 7v11 1- 2v11 1- 2v11 1-",
     "2v11 2- 1v11 1- 5v11 4- 2v11 2- 3v11 3- 1v51 7- 4v11 1- 1v11 7- 15v11 1v51 1v110 10- 3v11",
     "1- 7v11 1v40 1v11 1- 3v11 1- 22v11 1- 7v11 1- 2v11 1- 5v11 2- 10v11 1- 3v11 1- 3v11 2-",
     "1v11 15- 1v11 3v40 2- 10v11 1v61 1v40 7- 1v80 6v100 1- 3v11 1- 8v11 2- 2v11 2- 22v11 1-",
     "7v11 1- 2v11 1- 1v40 4v11 2- 8v11 1v51 2- 2v11 2- 3v11 7- 1v130 2v11 4- 2v11 1- 3v11 2v51",
     "2- 11v11 1v40 6v60 10- 2v11 1- 6v11 3- 3v11 1- 4v11 3- 2v11 1- 1v11 1- 2v11 3- 2v11 3-",
     "3v11 3- 8v11 1v41 3v11 4- 5v11 3- 3v11 1- 4v11 2- 1v51 6- 1v11 14- 1v41 12v11 8v40 5- 1v70",
     "3v11 1v110 8v11 1- 3v11 1- 23v11 1- 10v11 1v70 5v11 2- 1v140 1v51 7v11 1- 3v11 1- 4v11 7-",
     "2v11 1- 2v51 1v80 1- 1v170 1v140 2- 2v11 2v51 2- 10v11 7- 1v120 8v51 1v90 1v70 2v11 1v110",
     "8v11 1- 3v11 1- 23v11 1- 10v11 1- 5v11 2- 2v40 7v11 1- 3v11 1- 4v11 7- 2v11 5- 1v170 1v140",
     "1v11 1- 2v11 2v50 2- 10v11 1- 2v50 1v150 12- 1v100 1v70 2v11 1v130 8v11 1- 3v11 1- 23v11",
     "1v60 16v11 1v60 2v100 1v51 6v11 1v51 1- 3v11 1- 4v11 1v60 1v90 4- 3v90 1v11 7v90 1v80 2v11",
     "2v51 2- 10v11 6v51 3v90 7v51 1- 1v130 2v30 1- 18v30 3- 24v30 1- 9v30 1- 1v30 2- 7v30 3-",
     "1v30 4- 6v30 1- 1v30 1- 8v30 6- 10v70 2- 3v30 12- 58v11 4- 29v11 37- 2v11 1- 1v11 1- 1v120",
     "2v11 1v120 1v11 1- 1v120 1v11 6v120 4v11 1v120 7v11 1v120 3v11 1- 1v11 1- 1v11 2v120 2v11",
     "1v120 13v11 1v120 3v11 2- 5v11 1- 1v11 1- 6v11 1v150 1- 10v11 2- 2v11 2v61 32- 72v20 1-",
     "33v20 1v30 2v51 4- 27v20 4v60 6v20 1v30 1v20 1- 21v20 3v30 7v20 1v30 1v20 3v30 1- 15v30 1-",
     "1v51 1v30 2v41 3v51 4v52 2v60 37- 34v30 1v51 5v30 1v51 2v30 1v51 7v30 3v51 4v30 6v51 26v30",
     "64v51 4v52 2v51 38v11 1- 1v61 5- 1v61 2- 39v11 2v32 2v41 1v11 1v41 3v61 90v11 5v52 68v11",
     "5v52 82v11 6v52 7v30 1v41 63v30 1v41 1v30 1- 4v30 2- 7v30 1- 1v30 1- 4v30 2- 39v30 1v41",
     "1v30 1- 4v30 2- 31v30 1v41 1v30 1- 4v30 2- 7v30 1- 1v30 1- 4v30 2- 7v30 1v41 7v30 1- 23v30",
     "1v41 31v30 1v41 1v30 1- 4v30 2- 7v30 1v41 39v30 1v41 19v30 2- 2v60 2v41 28v30 3- 26v41 6-",
     "85v30 1v80 2- 6v80 2- 1v52 630v30 9v52 29v30 3- 81v30 8v70 7- 13v32 1v140 7v32 1v140 9-",
     "1v140 23v32 9- 20v32 12- 13v32 1- 3v32 1- 2v32 12- 93v30 1v40 2- 10v30 6- 10v40 6- 15v30",
     "1v140 10v30 6- 88v30 1v110 7- 42v30 1v51 5- 70v52 10- 29v40 2v70 1- 12v40 4- 12v40 4- 1v40",
     "3- 42v40 2- 5v40 11- 42v41 2v52 4- 26v41 6- 10v41 1v52 3- 2v41 32v40 28v41 2- 2v41 63v52",
     "1- 29v52 2- 11v52 6- 10v52 6- 14v52 2- 15v70 2v130 14v140 15v170 2- 12v170 20- 76v50 1v140",
     "1- 2v160 45v50 2v140 1v160 43v51 3v61 12v51 6v61 52v60 8- 4v60 56v51 3- 15v51 3- 51v51",
     "9v90 2v160 5- 43v110 2- 3v110 8v61 8- 35v52 4v61 1v100 2v70 1v120 5- 108v40 88v41 7v50",
     "28v51 15v70 4v100 1v140 1v90 1v60 1v52 2v50 155v11 1v20 4v51 90v11 6v51 22v11 2- 6v11 2-",
     "38v11 2- 6v11 2- 8v11 1- 1v11 1- 1v11 1- 1v11 1- 31v11 2- 53v11 1- 15v11 1- 14v11 2- 6v11",
     "1- 19v11 2- 3v11 1- 9v11 1- 47v11 1v30 23v11 1v32 6v30 5v32 2v40 2v41 1v32 7v41 5v32 1v51",
     "1- 4v63 7v11 1v32 2- 27v11 1- 5v41 8v60 3- 11v11 1v20 1v21 3v30 2v32 4v41 3v52 1v60 1v62",
     "3v70 1v80 1v100 1v140 1v170 14- 18v11 2v30 7v32 1v41 4v50 1v51 15- 57v11 2v30 1v40 1v41",
     "15v32 1v41 2v50 1v51 3v52 48v11 1v30 1v50 4v51 1v52 2v80 4- 91v11 9v30 12v32 242v11 14v32",
     "1v11 1v30 121v11 1v30 1v32 30v30 52v32 2v40 11v41 12v50 1v52 11v60 7v70 4v90 1v100 37v11",
     "2v30 3v160 22- 11v11 21- 139v11 20v32 1v40 150v11 10v32 80v11 8v30 8v32 20v11 2v40 2v32",
     "1v41 1v30 86v11 2v30 12v32 2v41 10v32 8v40 11v41 1v51 2v52 2v40 16v41 1v50 10v51 3v52 4v51",
     "10v52 1v60 19v52 1v60 1v52 4v60 24v52 1v70 4v11 1v60 4v11 2v60 28v11 1v60 35v11 1v60 1v11",
     "1v60 4v11 3v60 1v11 1v52 7v11 2v60 7v11 14v32 31v11 3v60 24v11 1v60 14v11 1v60 7v41 4v50",
     "1v61 1v51 1v61 2v60 28v32 4v51 16v32 256v30 512v32 14v40 6v41 7v50 5v51 4v50 41v51 3v70",
     "5v51 5v52 26v70 2- 32v70 1v170 1v130 34v70 3v110 12v70 1v120 8v70 1v100 25v110 4v80 15v110",
     "1v120 47v41 1v140 47v41 1v140 13v50 3v51 1v52 3v51 4v50 6v51 2v52 107v41 7v52 2v61 5-",
     "45v41 1- 1v61 5- 1v61 2- 54v41 2v61 7- 1v41 1v60 14- 1v60 23v41 9- 7v41 1- 7v41 1- 7v41 1-",
     "7v41 1- 7v41 1- 7v41 1- 7v41 1- 7v41 1- 32v51 24v41 4v51 2v41 19v51 1v52 10v61 7v70 2v90",
     "5v100 5v110 1v120 3v130 11v140 34- 26v30 1- 89v30 12- 214v30 26- 12v30 4v151 56v11 3v30",
     "3v32 1v30 1v11 1- 84v11 2v32 2- 6v11 2v32 94v11 1v32 5- 40v11 1v51 1v100 1v110 1- 94v11 1-",
     "16v11 24v30 3v60 5v130 16v41 20v51 2v160 9- 1v151 16v32 29v11 2v40 1- 36v11 12v52 1v40",
     "15v32 28v11 2v40 1v41 50v11 15v32 12v11 4v40 47v11 1v121 119v11 4v40 99v11 2v40 31v11 1v40",
     "6582v30 10v130 64v40 20902v11 22v41 8v51 8v52 1v61 9v80 21v100 5v110 13v130 3v140 1165v30",
     "3- 18v30 2v32 16v30 1v32 12v30 1v32 3v30 1v32 1v30 9- 48v52 300v51 20- 32v51 2v60 18v51",
     "8v61 28v51 6v70 1v80 1v61 88v52 8- 23v41 4v50 5v51 2v50 107v51 2v60 1v80 2v60 2v61 12v70",
     "10v60 1v61 3v70 1v90 1v110 2v70 6v80 2v110 6v120 2v140 5v120 4v130 3v160 2v170 2v140 1v170",
     "1v140 1v170 5v140 3v160 20- 1v170 3v140 2v130 1v70 2v61 1v60 5v51 44v41 1v130 3- 10v52 6-",
     "56v50 8- 69v51 1v90 8- 12v51 6- 28v52 2v80 2v110 84v51 11- 1v51 29v52 3- 78v52 1- 11v52 4-",
     "2v52 31v70 1- 55v51 9- 14v51 2- 10v51 2- 4v51 28v52 4v70 67v52 24- 5v52 23v61 10- 6v60 2-",
     "6v60 2- 6v60 9- 7v60 1- 7v60 1- 48v70 4v80 2v70 2v120 4v130 4- 80v80 46v52 2- 10v52 6-",
     "11172v20 12- 23v52 4- 49v52 2052- 6702v11 2v61 59v32 3v52 2- 106v41 38- 7v11 12- 5v11 5-",
     "1v30 25v11 1- 5v11 1- 1v11 1- 2v11 1- 2v11 1- 108v11 16v60 1v140 16v170 365v11 16v140",
     "64v11 2v170 54v11 7v170 1v140 32v31 12v11 1v32 1v40 2v140 16v32 10v41 6- 4v11 3v51 7v70",
     "2v80 21v11 2v32 2v40 10v11 1- 19v11 1- 4v11 4- 3v11 1v32 1v11 1- 135v11 2- 1v11 1- 94v11",
     "2v32 94v11 3- 6v11 2- 6v11 2- 6v11 2- 3v11 3- 7v11 1- 7v11 10- 3v30 1v21 3v11 12v40 1-",
     "26v40 1- 19v40 1- 2v40 1- 15v40 2- 14v40 34- 123v40 5- 3v40 4- 45v40 3- 9v40 75v41 2v70",
     "2v90 1- 12v51 1v130 3- 1v70 47- 46v51 130- 29v51 3- 49v51 15- 28v70 4- 31v31 1v70 4v31 9-",
     "3v100 27v31 5- 43v70 5- 30v40 1- 1v40 36v41 4- 14v41 42- 38v31 2v40 38v31 80v40 2- 10v40",
     "6- 36v90 4- 36v90 4- 40v70 8- 52v70 11- 1v70 11v140 1- 15v140 1- 7v140 1- 2v140 1- 11v140",
     "1- 15v140 1- 7v140 1- 2v140 3- 52v160 12- 311v70 9- 22v70 10- 8v70 24- 6v140 1- 42v140 1-",
     "9v140 69- 6v40 2- 1v40 1- 44v40 1- 2v40 3- 1v40 2- 1v40 22v52 1- 9v52 63v70 8- 9v70 48-",
     "19v80 1- 2v80 5- 5v80 26v50 2v52 3- 1v50 26v51 5- 1v51 26v170 38- 56v61 4- 2v80 2v61 16v80",
     "2- 46v80 4v41 1- 2v41 5- 8v41 1- 3v41 1- 27v41 2v110 2- 3v41 4- 9v41 1v110 7- 9v41 7-",
     "32v52 32v70 32- 39v70 4- 12v70 9- 54v52 3- 29v52 2- 27v52 5- 8v52 18v70 7- 4v70 12- 7v70",
     "80- 73v52 55- 51v80 13- 51v80 7- 6v80 40v110 8- 10v110 6- 38v160 3- 29v160 8- 2v160 208-",
     "31v52 1- 42v130 1- 3v130 2- 2v130 16- 3v160 3v170 8- 9v170 33- 2v170 1v160 3v150 40v110 8-",
     "42v110 22- 26v140 38- 28v130 20- 23v120 9- 78v60 4- 30v60 6v140 9- 1v70 66v52 1v140 10-",
     "1v110 2- 25v61 7- 10v61 6- 53v61 1- 14v61 3v110 1v130 8- 39v70 9- 73v61 4v80 1v70 2v130",
     "10v61 1v70 5v80 1- 20v70 11- 18v70 1- 43v70 1v90 3v150 62- 7v80 1- 1v80 1- 4v80 1- 15v80",
     "1- 11v80 6- 59v70 5- 10v70 6- 1v80 3v70 1- 8v70 2- 2v70 2- 22v70 1- 7v70 1- 2v70 1- 5v70",
     "1- 1v110 9v70 2- 2v70 2- 3v70 2- 1v80 6- 1v70 5- 7v70 2- 7v70 3- 5v70 11- 10v160 1- 1v160",
     "2- 1v160 1- 38v160 1- 10v160 1- 1v160 2- 1v160 1- 4v160 1- 10v160 1- 2v160 8- 2v160 29-",
     "90v90 1v130 1v90 1- 1v90 1v110 1v120 2v130 30- 72v70 8- 10v70 166- 54v70 2- 18v70 20v80",
     "34- 69v70 11- 10v70 6- 13v90 19- 56v61 1v120 1v140 6- 10v61 6- 20v160 28- 26v80 1v110 2-",
     "15v80 4- 16v80 7v140 185- 60v110 100- 83v70 12- 1v70 7v130 2- 1v130 2- 8v130 1- 2v130 1-",
     "30v130 1- 2v130 2- 12v130 9- 10v130 70- 8v120 2- 46v120 2- 11v120 27- 72v100 8- 52v100",
     "2v120 23v100 1v110 5v100 13- 16v140 57v70 7- 10v150 86- 8v170 88- 34v160 14- 10v160 6-",
     "9v90 1- 45v90 1- 14v90 10- 29v90 3- 32v90 2- 22v90 1- 14v90 73- 7v100 1- 2v100 1- 44v100",
     "3- 1v100 1- 2v100 1- 9v100 8- 10v100 6- 6v110 1- 2v110 1- 37v110 1- 2v110 1- 6v110 7-",
     "10v110 6- 44v170 4- 10v170 246- 25v110 7- 17v150 1- 41v150 3- 28v150 1v160 85- 1v130 15-",
     "50v120 13- 1v120 879v50 42v70 1v80 102- 99v50 12v70 1- 4v50 1v70 11- 196v80 2636- 99v140",
     "13- 1071v52 1v150 9v120 29v150 10- 3995v160 5- 583v80 6841- 58v160 1734- 569v60 7- 31v70",
     "1- 10v70 4- 2v70 79v140 1- 10v140 6- 30v70 2- 6v70 10- 70v70 10- 10v70 1- 7v70 1- 21v70 5-",
     "19v70 432- 58v160 198- 91v110 5- 25v170 2- 25v170 44- 69v61 6v120 4- 1v120 47v61 9v120 7-",
     "17v61 64- 1v90 1v100 2v120 1v130 11- 2v130 5v170 9- 6125v90 5v110 6v120 8v170 755v90",
     "483v130 41- 1v160 9v130 22v170 97- 115v170 8701- 4v140 1- 7v140 1- 2v140 1- 2v60 285v100",
     "4v140 15- 1v150 29- 3v120 2- 1v150 14- 4v120 8- 396v100 2308- 107v70 5- 13v70 3- 9v70 7-",
     "10v70 2- 8v70 3932- 250v160 3v170 3- 436v160 6- 23v170 15- 17v170 15- 46v140 2- 23v140 9-",
     "116v140 60- 246v31 10- 39v31 2- 1v51 180v31 11v80 2v140 21- 70v41 122- 20v150 12- 20v110",
     "12- 87v40 9- 18v50 7v110 135- 85v31 1- 71v31 1- 2v31 2- 1v31 2- 2v31 2- 4v31 1- 12v31 1-",
     "1v31 1- 4v31 1v40 2v31 1- 65v31 1- 4v31 2- 8v31 1- 7v31 1- 28v31 1- 4v31 1- 5v31 1- 1v31",
     "3- 7v31 1- 338v31 2v41 2- 290v31 2v50 2- 50v31 652v80 15- 5v80 1- 15v80 1104- 31v140 6-",
     "6v150 213- 7v90 1- 17v90 2- 7v90 1- 2v90 1- 5v90 5- 62v150 33- 1v150 112- 45v120 3- 14v120",
     "2- 10v120 4- 2v120 320- 31v140 17- 58v120 5- 1v120 464- 42v150 214- 43v160 4- 1v160 192-",
     "31v170 1- 22v170 8- 2v170 224- 7v140 1- 4v140 1- 2v140 1- 15v140 1- 197v70 2- 16v70 41-",
     "75v90 1v120 4- 10v90 4- 2v90 785- 68v110 76- 61v120 194- 4v61 1- 27v61 1- 2v61 1- 1v61 2-",
     "1v61 1- 10v61 1- 4v61 1- 1v61 1- 1v61 6- 1v61 4- 1v61 1- 1v61 1- 1v61 1- 3v61 1- 2v61 1-",
     "1v61 2- 1v61 1- 1v61 1- 1v61 1- 1v61 1- 1v61 1- 2v61 1- 1v61 2- 4v61 1- 7v61 1- 4v61 1-",
     "4v61 1- 1v61 1- 10v61 1- 17v61 5- 3v61 1- 5v61 1- 17v61 52- 2v61 270- 44v51 4- 100v51 12-",
     "15v60 2- 14v60 1v70 1- 15v60 1- 15v60 22v70 10- 11v52 2v70 3v130 31v52 1v110 1v60 1v52",
     "11v60 1v52 1v60 1v52 2v60 1v52 3v60 1v52 3v60 5v52 8v60 1v52 7v60 1v52 10v60 2v61 1v120",
     "3v130 9v60 1v52 1v60 2v52 2v60 1v52 10v60 4v52 2v60 1v52 10v60 18v90 1v130 56- 26v60 1v52",
     "2v60 13- 34v52 9v60 1v90 4- 9v52 7- 2v60 14- 6v100 154- 33v60 12v70 3v80 6v60 1v70 70v60",
     "1v70 2v80 20v60 12v70 37v60 1v70 5v60 4v70 5v80 12v70 17v60 7v70 8v80 63v60 1v70 1v60 1v70",
     "182v60 1v70 4v60 2v70 1v80 62v60 2v70 4v61 7v70 5v80 24v60 18v70 1v90 41v70 1v90 86v70",
     "5v60 1v61 16v60 1v61 3v60 1v61 1v60 1v61 1v60 1v61 1v60 1v61 3v60 1v61 6v60 2v61 4v60 1v61",
     "1v60 2v61 4v60 1v61 12v60 2v70 2v80 11v60 48v70 70v60 10v70 1v80 2v90 2v100 1v120 2v130",
     "1v170 3- 1v150 3v140 13v70 3- 4v70 3v90 2v100 1v110 1v120 2v130 3- 116v60 3v150 4v170",
     "5v150 85v70 4v110 1v150 6- 12v120 4- 1v140 15- 12v70 4- 56v70 8- 10v70 6- 40v70 8- 30v70",
     "2- 2v130 10v160 4- 2v160 14- 9v170 39- 12v100 1v130 3v120 9v80 6v90 1v100 8v90 8v100 1v90",
     "2v100 12v90 1v120 12v90 1v100 3v110 15v90 13v100 5v110 1v120 1v130 4v110 2v130 1v140 1v110",
     "1v120 4v110 5v80 13v90 6v100 11v110 2v130 6v120 3v130 2v120 10v110 6v120 1v80 2v110 8v120",
     "1v130 1v140 3v120 23v100 25v110 84v120 4v170 8- 14v110 2- 4v120 1v130 3v150 3v120 2v140 3-",
     "3v120 4v130 2v150 1v160 1v170 3- 1v170 1v160 6v120 19v130 4v140 3v150 7v130 4v140 3v150",
     "1v160 1v150 3v130 3v140 1v160 1- 1v170 4- 1v170 2v150 7v130 3v140 2v150 1v160 2- 1v160",
     "8v140 1v150 1v160 1v170 4- 1v170 7v140 2v150 7- 147v130 1- 55v130 37v160 10v130 1v170",
     "1027- 2v20 42711v31 7v130 2v140 32- 4149v52 4v140 1v150 6v170 222v60 2- 5762v80 12v170 2-",
     "7473v100 15- 622v151 2466- 542v31 1504- 2v20 4939v130 5- 4192v150 4298v170 52100- 2v20",
     "65534- 2v20 65534- 2v20 65534- 2v20 65534- 2v20 65534- 2v20 65534- 2v20 65534- 2v20 65534-",
     "2v20 65534- 2v20 65534- 2v20 1- 1v31 30- 96v31 128- 240v40 65038- 131074v20"]

/-- The versions in order, each with its names in their loose form. -/
def ageNames : List (List String × String) :=
  [(["1.1", "v11"], "v11"),
   (["2.0", "v20"], "v20"),
   (["2.1", "v21"], "v21"),
   (["3.0", "v30"], "v30"),
   (["3.1", "v31"], "v31"),
   (["3.2", "v32"], "v32"),
   (["4.0", "v40"], "v40"),
   (["4.1", "v41"], "v41"),
   (["5.0", "v50"], "v50"),
   (["5.1", "v51"], "v51"),
   (["5.2", "v52"], "v52"),
   (["6.0", "v60"], "v60"),
   (["6.1", "v61"], "v61"),
   (["6.2", "v62"], "v62"),
   (["6.3", "v63"], "v63"),
   (["7.0", "v70"], "v70"),
   (["8.0", "v80"], "v80"),
   (["9.0", "v90"], "v90"),
   (["10.0", "v100"], "v100"),
   (["11.0", "v110"], "v110"),
   (["12.0", "v120"], "v120"),
   (["12.1", "v121"], "v121"),
   (["13.0", "v130"], "v130"),
   (["14.0", "v140"], "v140"),
   (["15.0", "v150"], "v150"),
   (["15.1", "v151"], "v151"),
   (["16.0", "v160"], "v160"),
   (["17.0", "v170"], "v170")]

/-- All code points assigned up to the version. -/
def age? (name : String) : Option CodePoints :=
  match ageNames.findIdx? fun entry => entry.1.contains name with
  | none => none
  | some place =>
      let upTo := (ageNames.take (place + 1)).map Prod.snd
      some (ages.select upTo.contains)

end Unicode
end Pattern
end TaggedContent
